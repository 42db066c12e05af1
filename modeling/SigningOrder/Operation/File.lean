/-
Operations on files. The list of keys that guards a file is its WACL; a file
without one cannot be changed.
-/
import SigningOrder.Entity.Format
import SigningOrder.Instant.Format
import SigningOrder.Key.Format

namespace SigningOrder

/-- Creates a file. -/
structure FileCreate where
  /-- The WACL of the new file. -/
  keys : Option KeyList
  contents : Bytes
  expiration : Option Instant
  deriving DecidableEq, Repr

namespace FileCreate

/-- The fields, in the order in which they are written. -/
def fields : Fields FileCreate :=
  (Fields.and (.optional "keys" KeyList.format) <|
   Fields.and (.starting "contents" (.list .byte) []) <|
   .optional "expiration" Instant.format).as
    (fun (keys, contents, expiration) => ⟨keys, contents, expiration⟩)
    (fun x => (x.keys, x.contents, x.expiration))

/-- The written form. -/
def format : Format FileCreate :=
  fields.record

end FileCreate

/-- Adds to the contents of a file. -/
structure FileAppend where
  file : FileId
  contents : Bytes
  deriving DecidableEq, Repr

namespace FileAppend

/-- The fields, in the order in which they are written. -/
def fields : Fields FileAppend :=
  (Fields.and (.required "file" EntityId.format) <|
   .required "contents" (.list .byte)).as
    (fun (file, contents) => ⟨file, contents⟩)
    (fun x => (x.file, x.contents))

/-- The written form. -/
def format : Format FileAppend :=
  fields.record

end FileAppend

/-- Replaces the WACL, the contents or the expiration of a file. -/
structure FileUpdate where
  file : FileId
  /-- The WACL that replaces the present one. -/
  keys : Option KeyList
  contents : Option Bytes
  expiration : Option Instant
  deriving DecidableEq, Repr

namespace FileUpdate

/-- The fields, in the order in which they are written. -/
def fields : Fields FileUpdate :=
  (Fields.and (.required "file" EntityId.format) <|
   Fields.and (.optional "keys" KeyList.format) <|
   Fields.and (.optional "contents" (.list .byte)) <|
   .optional "expiration" Instant.format).as
    (fun (file, keys, contents, expiration) =>
      ⟨file, keys, contents, expiration⟩)
    (fun x => (x.file, x.keys, x.contents, x.expiration))

/-- The written form. -/
def format : Format FileUpdate :=
  fields.record

end FileUpdate

/-- Deletes a file. -/
structure FileDelete where
  file : FileId
  deriving DecidableEq, Repr

namespace FileDelete

/-- The fields, in the order in which they are written. -/
def fields : Fields FileDelete :=
  (Fields.required "file" EntityId.format).as (fun a => ⟨a⟩) (fun x => x.file)

/-- The written form. -/
def format : Format FileDelete :=
  fields.record

end FileDelete

end SigningOrder
