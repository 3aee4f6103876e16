import Sope.Lib.Run
import Sope.Lib.Ledger
import Sope.Lib.Tally
import Sope.Lib.Lock
import Sope.Server.Semaphores
import Sope.Server.Drain
import Sope.Server.Delivery
import Sope.Server.Indices
import Sope.Server.ListQueue
import Sope.Banking.Rules
import Sope.Banking.Frame
import Sope.Banking.Representation
import Sope.Banking.Passwords
import Sope.Server.Access
import Sope.Banking.ReturnCode
import Sope.Banking.Amount
import Sope.Banking.Transfer
import Sope.Banking.Leftovers
import Sope.Banking.Audit
import Sope.Banking.CommandLine
import Sope.Banking.Arrays
import Sope.Banking.Salts
import Sope.Exchange.Replies
import Sope.Exchange.PathArrays
import Sope.Exchange.Commands
import Sope.Server.ActiveOffices
import Sope.Exchange.Completion
import Sope.Lib.Pool
import Sope.Lib.Mailbox
import Sope.Lib.Forest
import Sope.Forensic.Schedules
import Sope.Forensic.Buffered
import Sope.Forensic.Requested
import Sope.Forensic.Timestamps
import Sope.Forensic.ToolBuffers
import Sope.Forensic.Quoting
import Sope.Log.Logfile
import Sope.Log.AccountSemaphores
import Sope.Log.Transcript
import Sope.Exchange.Linearized
import Sope.Log.Ulog
import Sope.Forensic.Logged
import Sope.Forensic.Termination
import Sope.Exchange.OwnFifo
