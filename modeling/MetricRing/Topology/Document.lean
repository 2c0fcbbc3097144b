import MetricRing.Json.Record
import MetricRing.Topology.Ring

/-!
# Topology documents

The JSON form in which nodes hand out a topology. `Document.parse` reads it and
`Document.outline` writes it. The number of copies stands under a current and under an older
name; of two numbers that are not zero the current one counts.
-/

namespace MetricRing.Topology

open Json

structure Document where
  writeCopies : UInt8 := 0
  legacyWriteCopies : UInt8 := 0
  members : List Member := []
  deriving DecidableEq, Repr, Inhabited

def defaultWriteCopies : UInt8 := 2

def byte? (o : Outline) : Option UInt8 := (o.natural? 0xFF).map UInt8.ofNat

def port? (o : Outline) : Option UInt16 := (o.natural? 0xFFFF).map UInt16.ofNat

def weight? (o : Outline) : Option UInt32 := (o.natural? 0xFFFFFFFF).map UInt32.ofNat

/-- A side, where null and blanks stand for none. -/
def side? : Outline → Option Side
  | .null => some .none
  | o => o.string?.bind fun s => (Side.parse s).toOption

namespace Member

def fields : List Field :=
  [⟨"id", []⟩, ⟨"address", []⟩, ⟨"port", []⟩, ⟨"apiport", ["api_port"]⟩, ⟨"weight", []⟩,
   ⟨"side", []⟩]

def ofOutline? (o : Outline) : Option Member := do
  let r ← Record.ofOutline? fields o
  let id ← r.required "id" Outline.string?
  let address ← r.required "address" Outline.string?
  let port ← r.orElse "port" 0 port?
  let apiPort ← r.orElse "apiport" 0 port?
  let weight ← r.orElse "weight" 0 weight?
  let side ← r.orElse "side" .none side?
  return { id, address, port, apiPort, weight, side }

def outline (m : Member) : Outline :=
  Outline.ofMembers
    [("id", Outline.ofString m.id), ("address", Outline.ofString m.address),
     ("port", Outline.ofNat m.port.toNat), ("apiport", Outline.ofNat m.apiPort.toNat),
     ("weight", Outline.ofNat m.weight.toNat), ("side", Outline.ofString m.side.code)]

end Member

namespace Document

def fields : List Field := [⟨"write_copies", []⟩, ⟨"writecopies", []⟩, ⟨"nodes", []⟩]

def members? (o : Outline) : Option (List Member) :=
  o.items?.bind fun items => items.mapM Member.ofOutline?

def ofOutline? (o : Outline) : Option Document := do
  let r ← Record.ofOutline? fields o
  let writeCopies ← r.orElse "write_copies" 0 byte?
  let legacyWriteCopies ← r.orElse "writecopies" 0 byte?
  let members ← r.orElse "nodes" [] members?
  return { writeCopies, legacyWriteCopies, members }

def outline (d : Document) : Outline :=
  Outline.ofMembers
    (("write_copies", Outline.ofNat d.writeCopies.toNat) ::
      ((if d.legacyWriteCopies = 0 then []
        else [("writecopies", Outline.ofNat d.legacyWriteCopies.toNat)]) ++
        [("nodes", .array (d.members.map Member.outline))]))

def parse (bytes : List UInt8) : Except Error Document :=
  match (Outline.parse? bytes).bind ofOutline? with
  | some d => .ok d
  | none => .error (.parse "not a topology document")

def effectiveWriteCopies (d : Document) : UInt8 :=
  if d.writeCopies ≠ 0 then d.writeCopies
  else if d.legacyWriteCopies ≠ 0 then d.legacyWriteCopies
  else defaultWriteCopies

def compile (d : Document) (declared : Option String) : Except Error Ring :=
  Ring.compile d.members declared d.effectiveWriteCopies

end Document
end MetricRing.Topology
