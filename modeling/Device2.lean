import Device2.Lib.StepSystem
import Device2.Lib.RecentBuffer
import Device2.Basic
import Device2.Device
import Device2.DevManager
import Device2.Server
import Device2.Exclusive
import Device2.FailedRequests
import Device2.Sessions
import Device2.InfoReport
import Device2.ConfGrammar
import Device2.Lib.Lines
import Device2.Spp
import Device2.SppFormat
import Device2.SppPairing
import Device2.Client
import Device2.UrlCodec
import Device2.DevicePing
import Device2.Drivers
import Device2.AskContract
import Device2.Lib.Segments
import Device2.SerialRead
import Device2.NetStream
import Device2.ShortWrites
import Device2.Lib.ModbusRtu
import Device2.Modbus
import Device2.Lib.ShiftRegister
import Device2.ModbusCrc
import Device2.Options
import Device2.Hm310t
import Device2.Hm310tRegisters
import Device2.Hm310tNumbers
import Device2.Lib.Resources
import Device2.DriverOpen
import Device2.DriverLeaks
import Device2.Lib.FlagWords
import Device2.Lib.Getopt
import Device2.Termios
import Device2.TermiosFrame
import Device2.AddOpts
import Device2.ClientReplies
import Device2.Daemon
import Device2.Threads
import Device2.Races
import Device2.DeviceRuns
import Device2.Lib.Mutex
import Device2.Logging
import Device2.AskExchange
import Device2.Lib.RecordStream
import Device2.ReadWords
import Device2.ConfRoundTrip
import Device2.Lib.Simulation
import Device2.Lib.SlotTrace
import Device2.Exceptions
import Device2.HttpServer
import Device2.SppHandshake
import Device2.RemoteDevice
import Device2.Monitor
import Device2.Vxi
import Device2.DriverSessions
import Device2.Addressing
import Device2.PidFile
import Device2.Settings
import Device2.DeviceC
import Device2.DeviceD
import Device2.Lib.Drain
import Device2.ManagerThreads
import Device2.RequestsFinish
import Device2.ConcurrentDevices
import Device2.Serializable
