import SystemProgramSubstream.Pubkey
import SystemProgramSubstream.SystemProgram
import SystemProgramSubstream.Pb
import SystemProgramSubstream.Transaction
import SystemProgramSubstream.ParseInstruction
import SystemProgramSubstream.ParseTransaction
import SystemProgramSubstream.ParseBlock
import SystemProgramSubstream.Pipeline
import SystemProgramSubstream.KeyText
import SystemProgramSubstream.Log
