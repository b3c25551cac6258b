import SearchKit.Value.Wording

/-!
# Faults

Why a call fails.  A fault is a cause; its wording is `Fault.message`.

* `Fault.refused`: the library refuses a request, with a status code.
* `Fault.invalid`: structured data does not have its declared shape.
* `Fault.host`: an object of the application failed, for a reason of its own.
* `Fault.misuse`: a value is of the wrong type, lacks a key or a part, or is out of range.
-/

namespace SearchKit

/-- A request that lacks something. -/
inductive BadRequest where
  /-- No address of a search backend is configured. -/
  | noHosts
  /-- No collection is named and there is no default. -/
  | noCollection
  /-- A bare identifier is to be deleted and no collection is known. -/
  | noCollectionToDelete
  /-- Neither the call nor the predicates name a field for distinct values. -/
  | noDistinctField
  /-- Records are to be fetched and no source is known. -/
  | noSource
  deriving DecidableEq, Repr

/-- Predicates that have no meaning. -/
inductive Malformed where
  /-- A sort direction that is neither of the two. -/
  | direction (given : String)
  /-- A pair of bounds with another count of values. -/
  | notPair (given : List String)
  /-- A range without any bound. -/
  | unbounded (field : String)
  deriving DecidableEq, Repr

/-- A component or provider that cannot be loaded. -/
inductive LoadFault where
  /-- There is no module of that name. -/
  | noModule (name : String)
  /-- The module defines no class of the wanted base. -/
  | noClass (base module : String)
  /-- The manifest has no component of that handle. -/
  | noComponent (handle : String)
  /-- A tag binds a component to a provider that it does not configure. -/
  | noProvider (handle component : String)
  /-- A reference that names neither the environment nor a variable. -/
  | badReference (reference : String)
  /-- There is no manifest file. -/
  | noManifest (path : String)
  /-- The manifest is not a map. -/
  | notMapping (path : String)
  deriving DecidableEq, Repr

/-- A refusal of the library itself. -/
inductive Refusal where
  | badRequest (cause : BadRequest)
  | malformed (cause : Malformed)
  /-- No provider and no component implements the operation. -/
  | unsupported (what : String)
  | load (cause : LoadFault)
  deriving DecidableEq, Repr

/-- A value used against its nature. -/
inductive Misuse where
  /-- A value of the wrong type, or a call with the wrong arguments. -/
  | wrongType
  /-- A value without the wanted part. -/
  | noPart
  /-- A container without the wanted key. -/
  | noKey
  /-- A list without the wanted place. -/
  | noPlace
  /-- A value of the right type that makes no sense there. -/
  | badValue
  /-- A number beyond the range. -/
  | outOfRange
  /-- A text that is not JSON. -/
  | notJson
  /-- A value that cannot be written as JSON. -/
  | notWritable
  /-- Structured data that is of no kind. -/
  | noKind
  /-- An operation without an implementation. -/
  | notImplemented
  /-- A sequence without a further item. -/
  | exhausted
  /-- A value that leads back to itself. -/
  | endless
  /-- A value too large to be held. -/
  | noMemory
  deriving DecidableEq, Repr

/-- A step of the path to a misfit in structured data. -/
inductive Step where
  | key (name : String)
  | index (n : Int)
  deriving DecidableEq, Repr

/-- How a value misses its declared shape. -/
inductive Misfit where
  | missing
  | notString
  | notInteger
  | integerText
  | integerTextSize
  | integerFraction
  | notFinite
  | notDict
  | notList
  | unreadableItem
  | notModel
  | notChoice
  | notCallable
  deriving DecidableEq, Repr

/-- A misfit and the path to it. -/
structure Issue where
  /-- The path from the outermost value. -/
  path : List Step
  /-- What is wrong there. -/
  misfit : Misfit
  deriving DecidableEq, Repr

/-- Why a call fails. -/
inductive Fault where
  /-- A refusal of the library. -/
  | refused (refusal : Refusal)
  /-- A failure of one of the application's own objects. -/
  | host (kind message : String)
  /-- Structured data that misses its declared shape. -/
  | invalid (issues : List Issue)
  /-- A manifest text that cannot be read. -/
  | unreadable
  /-- A value used against its nature. -/
  | misuse (kind : Misuse)
  deriving DecidableEq, Repr

namespace Malformed

/-- The wording of malformed predicates. -/
def message : Malformed → String
  | direction given => "Unexpected sort direction: " ++ given
  | notPair given => "Unexpected value: " ++ ", ".intercalate given
  | unbounded field => "Range on " ++ field ++ " needs at least one bound"

end Malformed

namespace BadRequest

/-- The wording of a bad request. -/
def message : BadRequest → String
  | noHosts => "Either hosts or cloud_id must be set"
  | noCollection => "Collection name must be specified"
  | noCollectionToDelete => "Collection name must be specified to delete by id"
  | noDistinctField => "Distinct field must be specified"
  | noSource => "Record source must be specified"

end BadRequest

namespace LoadFault

/-- The wording of a failed load. -/
def message : LoadFault → String
  | noModule name => "Module " ++ name ++ " could not be loaded"
  | noClass base module => base ++ " not found at " ++ module
  | noComponent handle => "Component " ++ handle ++ " not found in manifest"
  | noProvider handle component =>
    "Provider handle " ++ handle ++ " not found in providers for " ++ component
  | badReference reference => "Unsupported reference $\x7b" ++ reference ++ "\x7d"
  | noManifest path => "Manifest " ++ path ++ " not found"
  | notMapping path => "Manifest " ++ path ++ " must be a mapping"

end LoadFault

namespace Refusal

/-- The wording of a refusal. -/
def message : Refusal → String
  | badRequest cause => cause.message
  | malformed cause => cause.message
  | unsupported what => what
  | load cause => cause.message

/-- The status code of a refusal. -/
def statusCode : Refusal → Nat
  | badRequest _ => 400
  | malformed _ => 422
  | unsupported _ => 415
  | load _ => 500

end Refusal

namespace Fault

/-- The library refuses a request that lacks something. -/
abbrev badRequest (cause : BadRequest) : Fault := .refused (.badRequest cause)

/-- The library refuses malformed predicates. -/
abbrev malformed (cause : Malformed) : Fault := .refused (.malformed cause)

/-- Nothing implements the operation. -/
abbrev unsupported (what : String) : Fault := .refused (.unsupported what)

/-- A component or provider cannot be loaded. -/
abbrev load (cause : LoadFault) : Fault := .refused (.load cause)

/-- A value of the wrong type. -/
abbrev wrongType : Fault := .misuse .wrongType

/-- A value without the wanted part. -/
abbrev noPart : Fault := .misuse .noPart

/-- The fault says that nothing implements the operation. -/
def isUnsupported : Fault → Bool
  | .refused (.unsupported _) => true
  | _ => false

end Fault

end SearchKit
