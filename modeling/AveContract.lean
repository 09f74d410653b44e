import AveContract.Lib.Slice
import AveContract.Lib.Extents
import AveContract.Lib.Buffers
import AveContract.Lib.Borsh
import AveContract.Lib.Metered
import AveContract.Lib.Leb128
import AveContract.Runtime.Word
import AveContract.Runtime.Error
import AveContract.Runtime.Config
import AveContract.Runtime.Binary
import AveContract.Runtime.Reading
import AveContract.Runtime.Host
import AveContract.Runtime.Guest
import AveContract.Runtime.Data
import AveContract.Runtime.ContractRuntime
import AveContract.Sdk.Types
import AveContract.Sdk.Guest
import AveContract.Sdk.Hosts
import AveContract.Sdk.Reference
import AveContract.Runtime.Subject
import AveContract.Sdk.Life
import AveContract.Sdk.Examples
import AveContract.Proofs.Limits
import AveContract.Proofs.Allocator
import AveContract.Proofs.Handles
import AveContract.Proofs.Imports
import AveContract.Proofs.Buffers
import AveContract.Proofs.Staging
import AveContract.Proofs.HostCalls
import AveContract.Proofs.Instance
import AveContract.Proofs.Fuel
import AveContract.Proofs.Reader
import AveContract.Proofs.MemorySection
import AveContract.Proofs.Fleet
import AveContract.Proofs.Capped
import AveContract.Proofs.Capacity
import AveContract.Proofs.SdkCalls
import AveContract.Proofs.Contract
import AveContract.Proofs.Framing
import AveContract.Proofs.Completion
import AveContract.Proofs.Readback
import AveContract.Proofs.Verdicts
import AveContract.Proofs.Execution
import AveContract.Proofs.Fallback
import AveContract.Proofs.Answers
import AveContract.Proofs.Validation
import AveContract.Proofs.Lives
import AveContract.Proofs.Owners
import AveContract.Proofs.Examples
import AveContract.Proofs.Agreement
import AveContract.Proofs.Floor
import AveContract.Proofs.Stats
import AveContract.Lib.Tally
import AveContract.Lib.Histogram
import AveContract.Runtime.Metrics
import AveContract.Proofs.Metrics
import AveContract.Proofs.Scrapes
import AveContract.Sdk.Mock
import AveContract.Proofs.Diagnosis
import AveContract.Proofs.Mock
import AveContract.Proofs.UnitTests
