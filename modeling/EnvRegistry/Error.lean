import EnvRegistry.Json.Decoder
import EnvRegistry.Record.Basic
import EnvRegistry.Yaml.Basic

/-! # Errors

    What can go wrong in the registry, by cause.  `RegistryError.message` gives the
    words; nothing else in the library looks at them. -/

namespace EnvRegistry

/-- The kinds of record. -/
inductive EntityKind where
  | environment
  | tag
  | edgeGroup
  deriving DecidableEq, Repr

/-- Places of records are equal if their kinds and their ids are. -/
instance : LawfulBEq (EntityKind × UInt32) := inferInstance

/-- The kind in words. -/
def EntityKind.name : EntityKind → String
  | .environment => "environment"
  | .tag => "tag"
  | .edgeGroup => "edge group"

/-- Why a file operation fails. -/
inductive FileFault where
  | notFound
  | exists
  | notADirectory
  | isADirectory
  | notEmpty
  | nameTooLong
  | tooManyLinks
  /-- What is asked for makes no sense for this path. -/
  | invalid
  /-- What the path leads to is in use. -/
  | busy
  /-- The channel is closed, or open for something else. -/
  | badChannel
  | denied
  | noSpace
  | noDevice
  | nullByte
  | notUtf8
  deriving DecidableEq, Repr

namespace FileFault

/-- The number of the fault, unless it lies in what a file holds or in the path itself. -/
def number? : FileFault → Option Nat
  | .notFound => some 2
  | .noDevice => some 6
  | .badChannel => some 9
  | .denied => some 13
  | .busy => some 16
  | .exists => some 17
  | .notADirectory => some 20
  | .isADirectory => some 21
  | .invalid => some 22
  | .noSpace => some 28
  | .nameTooLong => some 36
  | .notEmpty => some 39
  | .tooManyLinks => some 40
  | .nullByte | .notUtf8 => none

/-- The fault in words, without its number. -/
def reason : FileFault → String
  | .notFound => "No such file or directory"
  | .noDevice => "No such device or address"
  | .badChannel => "Bad file descriptor"
  | .denied => "Permission denied"
  | .busy => "Device or resource busy"
  | .exists => "File exists"
  | .notADirectory => "Not a directory"
  | .isADirectory => "Is a directory"
  | .invalid => "Invalid argument"
  | .noSpace => "No space left on device"
  | .nameTooLong => "File name too long"
  | .notEmpty => "Directory not empty"
  | .tooManyLinks => "Too many levels of symbolic links"
  | .nullByte => "file name contained an unexpected NUL byte"
  | .notUtf8 => "stream did not contain valid UTF-8"

/-- The fault in words. -/
def message (f : FileFault) : String :=
  match f.number? with
  | some n => f.reason ++ " (os error " ++ toString n ++ ")"
  | none => f.reason

end FileFault

/-- Why a store refuses to keep or give back a record. -/
inductive StorageFault where
  | readRejected (kind : EntityKind) (id : UInt32)
  | writeRejected (kind : EntityKind) (id : UInt32)
  | scanRejected
  /-- The greatest possible id is taken. -/
  | idsExhausted
  /-- A stored record does not decode. -/
  | undecodable (e : Json.DecodeError)
  /-- The database is held open by someone else. -/
  | alreadyOpen
  /-- The file is not a database. -/
  | notADatabase
  | file (fault : FileFault)
  | other (text : String)
  deriving DecidableEq

/-- The fault in words. -/
def StorageFault.message : StorageFault → String
  | .readRejected kind id => "read of " ++ kind.name ++ " " ++ toString id.toNat ++ " rejected"
  | .writeRejected kind id => "write to " ++ kind.name ++ " " ++ toString id.toNat ++ " rejected"
  | .scanRejected => "edge group scan rejected"
  | .idsExhausted => "id space exhausted"
  | .undecodable e => e.message
  | .alreadyOpen => "Database already open. Cannot acquire lock."
  | .notADatabase => "I/O error: invalid data"
  | .file fault => "I/O error: " ++ fault.message
  | .other text => text

/-- Why a text is no configuration. -/
inductive ConfigFault where
  | yaml (f : Yaml.Fault)
  | wrongType (place expected : String)
  | repeatedField (name : String)
  deriving DecidableEq

/-- The fault in words. -/
def ConfigFault.message : ConfigFault → String
  | .yaml f => f.message
  | .wrongType place expected => place ++ "invalid type, expected " ++ expected
  | .repeatedField name => "duplicate field `" ++ name ++ "`"

/-- Why a request fails. -/
inductive RegistryError where
  | notInitialized
  | notFound (kind : EntityKind) (id : UInt32)
  | persistence (fault : StorageFault)
  /-- The writes are done, but telling those downstream failed. -/
  | refresh (text : String)
  | file (fault : FileFault)
  /-- A configuration file does not read as a configuration. -/
  | config (fault : ConfigFault)
  | json (e : Json.DecodeError)
  deriving DecidableEq

namespace RegistryError

/-- The error in words. -/
def message : RegistryError → String
  | .notInitialized => "not initialized: run 'envrel init'"
  | .notFound kind id => kind.name ++ " not found: " ++ toString id.toNat
  | .persistence fault => "persistence error: " ++ fault.message
  | .refresh text => "relation refresh failed: " ++ text
  | .file fault => fault.message
  | .config fault => fault.message
  | .json e => e.message

/-- Whether a record was looked for in vain. -/
def isNotFound : RegistryError → Bool
  | .notFound _ _ => true
  | _ => false

/-- The error as a failure to tell those downstream. -/
def asRefresh : RegistryError → RegistryError
  | .refresh text => .refresh text
  | e => .refresh e.message

end RegistryError

end EnvRegistry
