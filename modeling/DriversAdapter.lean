import DriversAdapter.Devmgr.Hosts
import DriversAdapter.Devmgr.Incarnations
import DriversAdapter.Devmgr.QueryDevice
import DriversAdapter.Devmgr.Respawn
import DriversAdapter.Hdi.Confinement
import DriversAdapter.Hdi.DebugLists
import DriversAdapter.Hdi.Descriptor
import DriversAdapter.Hdi.ObjectCollector
import DriversAdapter.Hdi.StubCollector
import DriversAdapter.Hdi.StubRegistry
import DriversAdapter.Hdi.Support
import DriversAdapter.Host.AddDevice
import DriversAdapter.Host.Power
import DriversAdapter.Ipc.Requests
import DriversAdapter.Net.NetBuf
import DriversAdapter.Net.NetBufResize
import DriversAdapter.Net.NetBufRooms
import DriversAdapter.Net.QueueTraffic
import DriversAdapter.Osal.SysEvent
import DriversAdapter.Osal.Timer
import DriversAdapter.Platform.UartAsr
import DriversAdapter.Platform.UartBes
import DriversAdapter.Security.HostMask
import DriversAdapter.Semantics.Fifo
import DriversAdapter.Semantics.Interleaving
import DriversAdapter.Shared.DevAttribute
import DriversAdapter.Smq.Blocking
import DriversAdapter.Smq.Bounds
import DriversAdapter.Smq.Broadcast
import DriversAdapter.Smq.Concurrent
import DriversAdapter.Smq.Construct
import DriversAdapter.Smq.Copy
import DriversAdapter.Smq.Descriptors
import DriversAdapter.Smq.Layout
import DriversAdapter.Smq.Outcome
import DriversAdapter.Smq.Timed
import DriversAdapter.Smq.Wakeup
import DriversAdapter.Svc.Identities
import DriversAdapter.Svc.Listeners
import DriversAdapter.Svc.Ownership
import DriversAdapter.Svc.Replies
import DriversAdapter.Svc.Traffic
import DriversAdapter.Usb.PnpRecords
import DriversAdapter.Base.Offset
import DriversAdapter.Semantics.Pages
import DriversAdapter.Storage.MtdChar
import DriversAdapter.Storage.MtdTransfer
import DriversAdapter.Storage.MtdSeek
import DriversAdapter.Storage.MtdIoctl
import DriversAdapter.Storage.MtdOpen
import DriversAdapter.Storage.MtdList
import DriversAdapter.Usb.PnpIds
import DriversAdapter.Usb.PnpInterface
import DriversAdapter.Net.Pbuf
import DriversAdapter.Net.Receive
import DriversAdapter.Base.UserCopy
import DriversAdapter.Semantics.Heap
import DriversAdapter.Semantics.Slices
import DriversAdapter.Platform.I2cDev
import DriversAdapter.Platform.I2cRdwr
import DriversAdapter.Platform.I2cIoctl
import DriversAdapter.Platform.SpiConfig
import DriversAdapter.Platform.SpiDev
import DriversAdapter.Platform.SpiPaths
import DriversAdapter.Platform.SpiHal
import DriversAdapter.Platform.SpiTransfer
import DriversAdapter.Semantics.Touches
import DriversAdapter.Usb.PnpTable
import DriversAdapter.Usb.PnpCommands
import DriversAdapter.Usb.PnpBounds
import DriversAdapter.Osal.Firmware
import DriversAdapter.Osal.Time
import DriversAdapter.Osal.Timeout
import DriversAdapter.Platform.CanVirtual
import DriversAdapter.Platform.GpioBes
import DriversAdapter.Platform.I2cBes
import DriversAdapter.Platform.I2cWm
import DriversAdapter.Platform.UartRead
import DriversAdapter.Platform.UartStm32f4xx
import DriversAdapter.Platform.UartGr5xx
import DriversAdapter.Devmgr.StartService
import DriversAdapter.Devmgr.AttachRequests
import DriversAdapter.Host.Publication
import DriversAdapter.Net.NetifLifecycle
import DriversAdapter.Storage.MtdFileMode
import DriversAdapter.Storage.MtdReturns
import DriversAdapter.Platform.PwmConfig
import DriversAdapter.Platform.Watchdog
import DriversAdapter.Platform.GpioGr5xx
import DriversAdapter.Svc.Clients
import DriversAdapter.Devmgr.Protocol
import DriversAdapter.Ipc.RemoteAdapter
import DriversAdapter.Smq.Sessions
import DriversAdapter.Net.Forwarding
import DriversAdapter.Storage.MtdStore
import DriversAdapter.Platform.I2cStm32f4xx
