import WolfPSA.Lib.Trace
import WolfPSA.Lib.Prog
import WolfPSA.Lib.Interleave
import WolfPSA.Lib.Bytes
import WolfPSA.Lib.Streams
import WolfPSA.Lib.Crew
import WolfPSA.Lib.Blocks
import WolfPSA.Lib.BlockModes
import WolfPSA.Lib.Handles
import WolfPSA.Lib.Outcomes
import WolfPSA.Lib.Counters
import WolfPSA.Lib.Der
import WolfPSA.Lib.Memory
import WolfPSA.Lib.PrfChain
import WolfPSA.Lib.Sponge
import WolfPSA.Lib.FileTree
import WolfPSA.Lib.Ccm
import WolfPSA.Source.Values
import WolfPSA.Source.Mac
import WolfPSA.Source.KeyDerivation
import WolfPSA.Source.KeyDerivationOutput
import WolfPSA.Source.KeyDerivationMoves
import WolfPSA.Source.KeyDerivationStreams
import WolfPSA.Source.KeyDerivationReads
import WolfPSA.Source.KeyImport
import WolfPSA.Source.KeyPolicy
import WolfPSA.Source.PolicyReadings
import WolfPSA.Source.KeyStorage
import WolfPSA.Source.StorePosix
import WolfPSA.Source.KeyRecords
import WolfPSA.Source.KeyCalls
import WolfPSA.Source.StoreZephyr
import WolfPSA.Source.KeyThreads
import WolfPSA.Source.Signatures
import WolfPSA.Source.SignatureCalls
import WolfPSA.Source.KeyAgreement
import WolfPSA.Source.KeyMap
import WolfPSA.Source.KeyOutputs
import WolfPSA.Source.Cipher
import WolfPSA.Source.CipherBlocks
import WolfPSA.Source.Hash
import WolfPSA.Source.Xof
import WolfPSA.Source.AeadCcm
import WolfPSA.Source.Aead
import WolfPSA.Source.CipherOneShot
import WolfPSA.Source.RsaExport
import WolfPSA.Source.ItsTransform
import WolfPSA.Source.PskPremaster
import WolfPSA.Source.KeyDerivationDispatch
import WolfPSA.Source.Pbkdf2Loop
import WolfPSA.Source.StorePaths
import WolfPSA.Source.ExportSizes
import WolfPSA.Source.KeyWrap
import WolfPSA.Source.AeadOneShot
import WolfPSA.Source.Kem
import WolfPSA.Source.PublicKeys
import WolfPSA.Guarantees.MacUsage
import WolfPSA.Guarantees.KdfCapacity
import WolfPSA.Guarantees.KdfErrors
import WolfPSA.Guarantees.KdfInputs
import WolfPSA.Guarantees.KdfStream
import WolfPSA.Guarantees.KdfUsage
import WolfPSA.Guarantees.KeyCreation
import WolfPSA.Guarantees.KeyIdentity
import WolfPSA.Guarantees.CopyPolicy
import WolfPSA.Guarantees.CopySignature
import WolfPSA.Guarantees.UsageQuery
import WolfPSA.Guarantees.OneRecord
import WolfPSA.Guarantees.XmssFamily
import WolfPSA.Guarantees.HashBinding
import WolfPSA.Guarantees.AgreementBarrier
import WolfPSA.Guarantees.LmsFormat
import WolfPSA.Guarantees.StoreRefinement
import WolfPSA.Guarantees.RecordRoundTrip
import WolfPSA.Guarantees.OneWinner
import WolfPSA.Guarantees.VolatileIds
import WolfPSA.Guarantees.CipherIv
import WolfPSA.Guarantees.CipherChunks
import WolfPSA.Guarantees.PartialBlock
import WolfPSA.Guarantees.FailureEnds
import WolfPSA.Guarantees.AeadLengths
import WolfPSA.Guarantees.Pkcs7Exact
import WolfPSA.Guarantees.CipherSizes
import WolfPSA.Guarantees.StarCounters
import WolfPSA.Guarantees.MacTags
import WolfPSA.Guarantees.RsaDer
import WolfPSA.Guarantees.ItsBinding
import WolfPSA.Guarantees.PskLayout
import WolfPSA.Guarantees.CounterKdf
import WolfPSA.Guarantees.Pbkdf2Cmac
import WolfPSA.Guarantees.XofStream
import WolfPSA.Guarantees.StorePathTrust
import WolfPSA.Guarantees.StoredKeys
import WolfPSA.Guarantees.KeyWrapping
import WolfPSA.Guarantees.CcmStream
import WolfPSA.Guarantees.AeadTranscript
import WolfPSA.Guarantees.CcmSessions
import WolfPSA.Guarantees.AeadOneShot
import WolfPSA.Guarantees.PublicHalves
import WolfPSA.Guarantees.KemAgreement
import WolfPSA.Guarantees.HashTranscript
import WolfPSA.Guarantees.SignatureTravel
