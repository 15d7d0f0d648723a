/-
StripeTransfer/Command/Basic.lean

The commands of the program, each with its form.  A command keeps what its
command line says; what it leaves open is decided when it is carried out.

Every option and free word is a definition of its own, which the form lists and
the command reads its value with, so the two cannot disagree on it.
-/
import StripeTransfer.Command.Words

namespace StripeTransfer

/-- Measures how fast a file is read. -/
structure ReadCommand where
  file : String
  /-- By default one thread per stripe. -/
  threads : Option Nat
  strategy : Strategy
  divisor : Nat
  perUnit : Bool
  brief : Bool
  blockSize : Option Nat
  deriving Repr, DecidableEq

/-- Measures how fast a file is written. -/
structure WriteCommand where
  file : String
  size : Nat
  threads : Nat
  strategy : Strategy
  sync : Option SyncPolicy
  blockSize : Option Nat
  brief : Bool
  deriving Repr, DecidableEq

/-- Uploads a file to a store. -/
structure UploadCommand where
  endpoint : Option String
  bucket : String
  key : String
  file : String
  jobs : Option Nat
  credentials : Option String
  profile : Option String
  retries : Option Nat
  source : Option SourceMode
  accessKey : Option String
  secretKey : Option String
  region : Option String
  deriving Repr, DecidableEq

/-- Creates a file that holds the test pattern. -/
structure CreateCommand where
  file : String
  size : Nat
  stripeSize : Option Nat
  stripeCount : Option Nat
  deriving Repr, DecidableEq

/-! ### Forms -/

namespace ReadCommand

def fileWord : Parameter String := ⟨"file", none, "file to read", .text⟩

def threadsOption : Parameter Nat :=
  ⟨"threads", some 't', "number of threads, defaults to the stripe count", .count⟩

def modeOption : Parameter Strategy :=
  ⟨"mode", some 'm', "transfer mode: buffered, unbuffered or mmap", .strategy⟩

def divisorOption : Parameter Nat :=
  ⟨"divisor", some 'd', "read only the leading 1/divisor of every thread's range", .count⟩

def perUnitSwitch : Switch := ⟨"per-ost", 'o', "report bandwidth per OST"⟩

def briefSwitch : Switch := ⟨"bw-only", 'b', "print the bandwidth only"⟩

def blockSizeOption : Parameter Nat :=
  ⟨"block-size", none, "upper bound on the size of a single read call", .size⟩

/-- The form of the command. -/
def form : CommandForm ReadCommand where
  name := "read"
  about := "measure the read bandwidth of a file By default one thread per stripe is started. " ++
    "When launched by a job launcher, every process reads its own shard of the file and prints a " ++
    "single bandwidth number."
  words := [fileWord.required]
  options := [threadsOption.optional, modeOption.optional, divisorOption.optional,
    perUnitSwitch.item, briefSwitch.item, blockSizeOption.optional]
  ofMatches m :=
    { file := m.demanded fileWord
      threads := m.value? threadsOption
      strategy := (m.value? modeOption).getD .unbuffered
      divisor := (m.value? divisorOption).getD 1
      perUnit := m.isOn perUnitSwitch
      brief := m.isOn briefSwitch
      blockSize := m.value? blockSizeOption }

end ReadCommand

namespace WriteCommand

def fileWord : Parameter String := ⟨"file", none, "file to write", .text⟩

def sizeOption : Parameter Nat :=
  ⟨"size", some 'n', "number of bytes to write, shared by all processes of a job", .size⟩

def threadsOption : Parameter Nat := ⟨"threads", some 't', "number of threads", .count⟩

def syncOption : Parameter SyncPolicy :=
  ⟨"sync", none, "when to flush written data: end, worker or none", .sync⟩

def blockSizeOption : Parameter Nat :=
  ⟨"block-size", none, "upper bound on the size of a single write call", .size⟩

/-- The form of the command. -/
def form : CommandForm WriteCommand where
  name := "write"
  about := "measure the write bandwidth of a file"
  words := [fileWord.required]
  options := [sizeOption.required, threadsOption.optional, ReadCommand.modeOption.optional,
    syncOption.optional, blockSizeOption.optional, ReadCommand.briefSwitch.item]
  ofMatches m :=
    { file := m.demanded fileWord
      size := m.demanded sizeOption
      threads := (m.value? threadsOption).getD 1
      strategy := (m.value? ReadCommand.modeOption).getD .unbuffered
      sync := m.value? syncOption
      blockSize := m.value? blockSizeOption
      brief := m.isOn ReadCommand.briefSwitch }

end WriteCommand

namespace UploadCommand

def endpointOption : Parameter String :=
  ⟨"endpoint", some 'e', "endpoint URL, http[s]://host[:port]", .text⟩

def bucketOption : Parameter String := ⟨"bucket", some 'b', "bucket name", .text⟩

def keyOption : Parameter String := ⟨"key", some 'k', "object key", .text⟩

def fileOption : Parameter String := ⟨"file", some 'f', "file to upload", .text⟩

def jobsOption : Parameter Nat :=
  ⟨"jobs", some 'j', "number of parts uploaded in parallel", .count⟩

def credentialsOption : Parameter String :=
  ⟨"credentials", none, "credentials file in AWS format", .text⟩

def profileOption : Parameter String :=
  ⟨"profile", some 'p', "profile in the credentials file", .text⟩

def retriesOption : Parameter Nat :=
  ⟨"retries", some 'r', "how often a part without an ETag is sent again", .count⟩

def sourceOption : Parameter SourceMode :=
  ⟨"source", some 'm', "how parts are read: none, preload or map", .source⟩

def accessKeyOption : Parameter String :=
  ⟨"access-key", some 'a', "access key, requires a secret key", .text⟩

def secretKeyOption : Parameter String :=
  ⟨"secret-key", some 's', "secret key, requires an access key", .text⟩

def regionOption : Parameter String := ⟨"region", none, "region used for signing", .text⟩

/-- The form of the command. -/
def form : CommandForm UploadCommand where
  name := "upload"
  about := "upload a file to an S3-compatible object store"
  words := []
  options := [endpointOption.optional, bucketOption.required, keyOption.required,
    fileOption.required, jobsOption.optional, credentialsOption.optional, profileOption.optional,
    retriesOption.optional, sourceOption.optional, accessKeyOption.optional,
    secretKeyOption.optional, regionOption.optional]
  ofMatches m :=
    { endpoint := m.value? endpointOption
      bucket := m.demanded bucketOption
      key := m.demanded keyOption
      file := m.demanded fileOption
      jobs := m.value? jobsOption
      credentials := m.value? credentialsOption
      profile := m.value? profileOption
      retries := m.value? retriesOption
      source := m.value? sourceOption
      accessKey := m.value? accessKeyOption
      secretKey := m.value? secretKeyOption
      region := m.value? regionOption }

end UploadCommand

namespace CreateCommand

def fileWord : Parameter String := ⟨"file", none, "file to create", .text⟩

def sizeWord : Parameter Nat := ⟨"size", none, "size of the file", .size⟩

def stripeSizeOption : Parameter Nat :=
  ⟨"stripe-size", none, "stripe size of the new file, requires a stripe count", .size⟩

def stripeCountOption : Parameter Nat :=
  ⟨"stripe-count", none, "stripe count of the new file, requires a stripe size", .count⟩

/-- The form of the command. -/
def form : CommandForm CreateCommand where
  name := "create-file"
  about := "create a file filled with a sequence of 64-bit integers"
  words := [fileWord.required, sizeWord.required]
  options := [stripeSizeOption.optional, stripeCountOption.optional]
  ofMatches m :=
    { file := m.demanded fileWord
      size := m.demanded sizeWord
      stripeSize := m.value? stripeSizeOption
      stripeCount := m.value? stripeCountOption }

end CreateCommand

/-! ### All commands -/

/-- A command of the program. -/
inductive Command where
  | read (c : ReadCommand)
  | write (c : WriteCommand)
  | upload (c : UploadCommand)
  /-- Prints the layout of a file. -/
  | layout (file : String)
  | create (c : CreateCommand)
  /-- Checks whether a file system accepts writes that bypass its cache. -/
  | checkDirect (file : String)
  /-- Prints the version of the program. -/
  | version
  deriving Repr, DecidableEq

namespace Command

def layoutWord : Parameter String := ⟨"file", none, "file to inspect", .text⟩

/-- The form of the command that prints a layout. -/
def layoutForm : CommandForm Command where
  name := "layout"
  about := "print the stripe layout of a file"
  words := [layoutWord.required]
  options := []
  ofMatches m := layout (m.demanded layoutWord)

/-- The form of the command that checks for direct writes. -/
def checkDirectForm : CommandForm Command where
  name := "check-direct-io"
  about := "check whether a filesystem accepts O_DIRECT writes Writes one page to the given file, " ++
    "creating it if needed."
  words := [WriteCommand.fileWord.required]
  options := []
  ofMatches m := checkDirect (m.demanded WriteCommand.fileWord)

/-- The form of the command that prints the version. -/
def versionForm : CommandForm Command :=
  ⟨"version", "print the stripebench version", [], [], fun _ => version⟩

/-- The option that names the file with the configuration. -/
def configOption : Parameter String :=
  ⟨"config", some 'c', "path to the YAML configuration file", .text⟩

/-- The form of the program. -/
def programForm : ProgramForm Command where
  name := "stripebench"
  about := "Parallel I/O benchmarks for striped filesystems."
  options := [configOption.optional]
  commands := [ReadCommand.form.map read, WriteCommand.form.map write, UploadCommand.form.map upload,
    layoutForm, CreateCommand.form.map create, checkDirectForm, versionForm]

end Command

end StripeTransfer
