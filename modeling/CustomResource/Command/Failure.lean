import CustomResource.Error

/-!
# Failures of a command

Why a command that was understood fails.  The failure is reported in one line: what was going on, and the
chain of causes below it from the outermost to the innermost, each with its whole text.  A cause whose text
comes from a reader that is not modelled ends the chain with what is known of it.
-/

namespace CustomResource.Command

/-- Why a command fails. -/
inductive Failure where
  /-- A descriptor set cannot be loaded. -/
  | loading (path : String) (cause : LoadError)
  /-- Schema sources are given, which only a compiler can read. -/
  | uncompiled
  /-- No descriptors are given. -/
  | noDescriptors
  /-- A custom resource cannot be generated. -/
  | generating (typeName : String) (cause : Error)
  /-- A generated source cannot be written. -/
  | writing (path : String) (cause : FileError)
  /-- A type is not registered. -/
  | unknownType (name : String)
  /-- The kind of a field cannot be shown. -/
  | field (cause : GenerateError)
  /-- The descriptors do not hold together. -/
  | unlinked
  /-- A message of any type is to be shown, but its type is not named. -/
  | unnamedPayload
  deriving DecidableEq, Repr

namespace Failure

/-- The texts below a load error. -/
def loadCauses : LoadError → List String
  | .unreadable cause => [cause.message]
  | .undecodable => []

/-- The texts of a failure, from the outermost to the innermost. -/
def chain : Failure → List String
  | .loading path cause => ("loading " ++ path) :: cause.message :: loadCauses cause
  | .uncompiled => ["failed to compile protobuf sources: "]
  | .noDescriptors => ["no descriptors given, use --descriptor-set or --proto"]
  | .generating typeName cause =>
      ("generating custom resource for " ++ typeName) :: cause.message :: cause.causes
  | .writing path cause => ["writing " ++ path, cause.message]
  | .unknownType name => [Error.message (.notFound name)]
  | .field cause => [cause.message]
  | .unlinked => ["building descriptor pool", ""]
  | .unnamedPayload => ["unsupported type url \x27\x27: missing at least one \x27/\x27 character"]

/-- The line that reports a failure. -/
def report (failure : Failure) : String :=
  "prost-crd: " ++ ": ".intercalate failure.chain ++ "\n"

end Failure

end CustomResource.Command
