import RenecLedger.Lib.Reader
import RenecLedger.Lib.Slice
import RenecLedger.Lib.Machine
import RenecLedger.Lib.Program
import RenecLedger.Lib.Numeral
import RenecLedger.Lib.Expansion
import RenecLedger.Lib.Gregorian
import RenecLedger.Lib.Utf8
import RenecLedger.Lib.Iterator
import RenecLedger.Lib.Layout
import RenecLedger.Parser
import RenecLedger.Encoding
import RenecLedger.Accounts
import RenecLedger.InstructionData
import RenecLedger.Summary
import RenecLedger.System
import RenecLedger.Stake
import RenecLedger.Vote
import RenecLedger.RplToken
import RenecLedger.TokenInstructions
import RenecLedger.Instruction
import RenecLedger.AccountWalk
import RenecLedger.TransactionPrinters
import RenecLedger.Message
import RenecLedger.SummarySpec
import RenecLedger.PrinterSpec
import RenecLedger.TransactionSpec
import RenecLedger.MessageSpec
import RenecLedger.Spelling
import RenecLedger.Acceptance
import RenecLedger.MultisigThreshold
import RenecLedger.NewAuthorities
import RenecLedger.Amounts
import RenecLedger.DisplayOrder
import RenecLedger.ExpertMode
import RenecLedger.SharedAccounts
import RenecLedger.MessageVersion
import RenecLedger.Authorities
import RenecLedger.Printer
import RenecLedger.TextSpec
import RenecLedger.SizedStrings
import RenecLedger.IntegerTexts
import RenecLedger.ExactAmounts
import RenecLedger.TokenAmountBounds
import RenecLedger.Calendar
import RenecLedger.Timestamps
import RenecLedger.Base58
import RenecLedger.Base58Memory
import RenecLedger.SummaryDisplay
import RenecLedger.DisplaySpec
import RenecLedger.ItemPlaces
import RenecLedger.TextBounds
import RenecLedger.Base58Text
import RenecLedger.Rendering
import RenecLedger.TimestampRange
import RenecLedger.Apdu
import RenecLedger.App
import RenecLedger.Swap
import RenecLedger.SignMessage
import RenecLedger.SignOffchainMessage
import RenecLedger.Main
import RenecLedger.ApduSpec
import RenecLedger.AppSpec
import RenecLedger.Reassembly
import RenecLedger.Client
import RenecLedger.SignerSpec
import RenecLedger.HandlerSpec
import RenecLedger.CommandPath
import RenecLedger.Review
import RenecLedger.Unrecognised
import RenecLedger.OffchainSpec
import RenecLedger.Utf8
import RenecLedger.RawApdu
import RenecLedger.CommandBounds
import RenecLedger.OffchainReview
import RenecLedger.OffchainScreens
import RenecLedger.SwapSpec
import RenecLedger.SwapParameters
import RenecLedger.SwapSigning
import RenecLedger.PubkeyReview
import RenecLedger.Conversation
import RenecLedger.Screens
import RenecLedger.Settings
import RenecLedger.Consent
import RenecLedger.SwapLibrary
import RenecLedger.Reviewable
import RenecLedger.ReviewFlow
import RenecLedger.Independence
import RenecLedger.Requests
import RenecLedger.Approval
import RenecLedger.InstructionLayout
import RenecLedger.SystemInstructions
import RenecLedger.StakeInstructions
import RenecLedger.VoteInstructions
import RenecLedger.TokenLayouts
