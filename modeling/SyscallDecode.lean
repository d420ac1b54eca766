import SyscallDecode.Text.Blank
import SyscallDecode.Text.Numeral
import SyscallDecode.Text.Utf8
import SyscallDecode.Text.Quoted
import SyscallDecode.Text.Dump
import SyscallDecode.Text.Width
import SyscallDecode.Text.Lines
import SyscallDecode.Text.ByteSize
import SyscallDecode.Text.Box
import SyscallDecode.Socket.Ip
import SyscallDecode.Failure
import SyscallDecode.CType.Name
import SyscallDecode.CType.Render
import SyscallDecode.CType.Catalogue
import SyscallDecode.Target.Cursor
import SyscallDecode.Target.Snapshot
import SyscallDecode.Target.Traced
import SyscallDecode.Flags.Memory
import SyscallDecode.Flags.Socket
import SyscallDecode.Signature.Role
import SyscallDecode.Signature.BareName
import SyscallDecode.Signature.Lookup
import SyscallDecode.Invocation.Binding
import SyscallDecode.Process.MemoryMap
import SyscallDecode.Kernel.Task
import SyscallDecode.Socket.Message
import SyscallDecode.Report.Style
import SyscallDecode.Decode.Call
import SyscallDecode.CommandLine.Reading
import SyscallDecode.Main
import SyscallDecode.Proofs.Inquiry.Agreement
import SyscallDecode.Proofs.Inquiry.Within
import SyscallDecode.Proofs.Decode.Arguments
import SyscallDecode.Proofs.Decode.Confinement
import SyscallDecode.Proofs.Decode.Gaps
import SyscallDecode.Proofs.Decode.Guard
import SyscallDecode.Proofs.Decode.Isolation
import SyscallDecode.Proofs.Decode.MemoryMap
import SyscallDecode.Proofs.Decode.Containment
import SyscallDecode.Proofs.Decode.Mapping
import SyscallDecode.Proofs.Kernel.Descriptor
import SyscallDecode.Proofs.Terminal.Report
import SyscallDecode.Proofs.Socket.Message
import SyscallDecode.Proofs.Kernel.Areas
import SyscallDecode.Proofs.Decode.MessageHeader
import SyscallDecode.Proofs.Report.Written
import SyscallDecode.Proofs.CommandLine.Registers
import SyscallDecode.Proofs.Decode.Unknown
import SyscallDecode.Proofs.Decode.SocketAddress
import SyscallDecode.Proofs.Socket.Preview
import SyscallDecode.Proofs.Decode.StringArray
import SyscallDecode.Proofs.Decode.Lengths
import SyscallDecode.Proofs.Decode.Colors
import SyscallDecode.Proofs.Inquiry.Buffers
import SyscallDecode.Proofs.Inquiry.FirstZero
import SyscallDecode.Proofs.Decode.Limits
import SyscallDecode.Proofs.Decode.ArrayCap
import SyscallDecode.Proofs.Socket.AddressText
import SyscallDecode.Proofs.Flags.Listing
import SyscallDecode.Proofs.CType.Members
import SyscallDecode.Proofs.Inquiry.Scalars
import SyscallDecode.Proofs.Invocation.Grammar
import SyscallDecode.Proofs.CType.Names
import SyscallDecode.Proofs.Target.Traced
import SyscallDecode.Proofs.Process.MemoryMap
import SyscallDecode.Proofs.Target.Cursor
import SyscallDecode.Proofs.Decode.Siblings
import SyscallDecode.Proofs.Decode.Views
