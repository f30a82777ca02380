import Waypipe.CMem
import Waypipe.Token
import Waypipe.Sockaddr
import Waypipe.Process
import Waypipe.Syscall
import Waypipe.History
import Waypipe.UpdateConnections
import Waypipe.NewConnection
import Waypipe.MultiServer
import Waypipe.MultiInvariant
import Waypipe.MultiAccept
import Waypipe.SingleServer
import Waypipe.Shell
import Waypipe.RunServer
import Waypipe.MultiRun
import Waypipe.SingleRun
import Waypipe.Server
import Waypipe.ThreadPool
import Waypipe.Transfer
import Waypipe.MirrorTest
