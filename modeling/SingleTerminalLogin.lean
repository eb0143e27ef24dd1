import SingleTerminalLogin.Lib.ByteText
import SingleTerminalLogin.Lib.Binary64
import SingleTerminalLogin.Lib.Rounding
import SingleTerminalLogin.Lib.CProgram
import SingleTerminalLogin.Lib.Process
import SingleTerminalLogin.Lib.CutShort
import SingleTerminalLogin.Lib.Script
import SingleTerminalLogin.Lib.CArray
import SingleTerminalLogin.Lib.Printf
import SingleTerminalLogin.Lib.LineInput
import SingleTerminalLogin.Lib.Machine
import SingleTerminalLogin.Lib.Interference
import SingleTerminalLogin.Lib.Loop
import SingleTerminalLogin.Lib.Occurs
import SingleTerminalLogin.Lib.SqlLex
import SingleTerminalLogin.Lib.Exclusive
import SingleTerminalLogin.Lib.Pipe
import SingleTerminalLogin.Lib.SepLogic
import SingleTerminalLogin.Lib.HeapProgram
import SingleTerminalLogin.Lib.LinkedList
import SingleTerminalLogin.Lib.JsonText
import SingleTerminalLogin.CJson.Node
import SingleTerminalLogin.CJson.Parse
import SingleTerminalLogin.CJson.Print
import SingleTerminalLogin.CJson.Parsed
import SingleTerminalLogin.CJson.Numerals
import SingleTerminalLogin.CJson.Strings
import SingleTerminalLogin.CJson.Relay
import SingleTerminalLogin.CJson.RoundTrip
import SingleTerminalLogin.CJson.Members
import SingleTerminalLogin.CJson.Heap
import SingleTerminalLogin.CJson.Owned
import SingleTerminalLogin.CJson.Linking
import SingleTerminalLogin.CJson.Unlinking
import SingleTerminalLogin.CJson.HeapParse
import SingleTerminalLogin.CJson.Grammar
import SingleTerminalLogin.CJson.Formatted
import SingleTerminalLogin.CJson.HeapPrint
import SingleTerminalLogin.CJson.PrintBuffers
import SingleTerminalLogin.CJson.HeapPrinted
import SingleTerminalLogin.CJson.Edits
import SingleTerminalLogin.CJson.Reading
import SingleTerminalLogin.Daemon.EventLoop
import SingleTerminalLogin.Daemon.FdName
import SingleTerminalLogin.Daemon.LogRecord
import SingleTerminalLogin.Sql.Tables
import SingleTerminalLogin.Sql.SqlApi
import SingleTerminalLogin.LoginManager.Loginer
import SingleTerminalLogin.LoginManager.Register
import SingleTerminalLogin.LoginManager.Atomicity
import SingleTerminalLogin.Services.MessageReceiver
import SingleTerminalLogin.Services.MessageDispatcher
import SingleTerminalLogin.Services.ServiceFd
import SingleTerminalLogin.Services.UserLoginImpl
import SingleTerminalLogin.Services.Logged
import SingleTerminalLogin.LoginManager.Sessions
import SingleTerminalLogin.LoginManager.Refinement
import SingleTerminalLogin.LoginManager.Isolation
import SingleTerminalLogin.LoginManager.Failures
import SingleTerminalLogin.LoginManager.Scripts
import SingleTerminalLogin.LoginManager.Freshness
import SingleTerminalLogin.LoginManager.RowIds
import SingleTerminalLogin.LoginManager.Registration
import SingleTerminalLogin.LoginManager.Injection
import SingleTerminalLogin.Services.FormerLoginer
import SingleTerminalLogin.Services.Provenance
import SingleTerminalLogin.Services.Dispatch
import SingleTerminalLogin.Services.Robustness
import SingleTerminalLogin.Services.OperationLines
import SingleTerminalLogin.Services.LogLines
import SingleTerminalLogin.Services.ResponseFields
import SingleTerminalLogin.Services.Displacement
import SingleTerminalLogin.Services.Produced
import SingleTerminalLogin.Services.Ownership
import SingleTerminalLogin.Services.ResponseCode
import SingleTerminalLogin.Services.Answering
import SingleTerminalLogin.Services.Survival
import SingleTerminalLogin.Services.Framing
import SingleTerminalLogin.Services.MessageMemory
import SingleTerminalLogin.Services.LookupMemory
import SingleTerminalLogin.Client.Requests
import SingleTerminalLogin.Client.Typed
import SingleTerminalLogin.Client.CommandLoop
import SingleTerminalLogin.Client.CommandLine
import SingleTerminalLogin.Client.Str2vec
import SingleTerminalLogin.Client.Answers
import SingleTerminalLogin.Client.Receiving
import SingleTerminalLogin.Services.MemoryGrowth
import SingleTerminalLogin.System.ReadBuffers
import SingleTerminalLogin.System.System
import SingleTerminalLogin.System.Sound
import SingleTerminalLogin.System.SingleTerminal
import SingleTerminalLogin.System.Notices
import SingleTerminalLogin.System.Winner
