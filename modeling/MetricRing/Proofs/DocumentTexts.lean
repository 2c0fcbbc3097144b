import MetricRing.Proofs.JsonTexts
import MetricRing.Topology.Document

/-!
# Topology documents and their texts

What is read of a topology document depends on the texts that its strings spell alone. So the text
that is written for a document is read back as this document, whatever its first text looked like.
-/

namespace MetricRing

namespace Json

/-! ### What a reader sees -/

namespace Outline

theorem string?_respelled (o : Outline) : o.respelled.string? = o.string? := by
  cases o with
  | string s => exact text?_respelled s
  | _ => rfl

theorem natural?_respelled (bound : Nat) (o : Outline) :
    o.respelled.natural? bound = o.natural? bound := by
  cases o <;> rfl

theorem items?_respelled (o : Outline) :
    o.respelled.items? = o.items?.map (List.map Outline.respelled) := by
  cases o with
  | array items => exact congrArg some (itemsRespelled_eq_map items)
  | _ => rfl

end Outline

namespace Record

def respelled (r : Record) : Record := r.map fun x => (x.1, x.2.respelled)

theorem lookup_respelled (r : Record) (name : String) :
    r.respelled.lookup name = (r.lookup name).map Outline.respelled := by
  induction r with
  | nil => rfl
  | cons x r ih =>
    obtain ⟨key, item⟩ := x
    change ((key, item.respelled) :: Record.respelled r).lookup name = _
    rw [List.lookup_cons, List.lookup_cons, ih]
    split <;> rfl

variable {α : Type} {read : Outline → Option α}

theorem orElse_respelled (hread : ∀ o, read o.respelled = read o) (r : Record) (name : String)
    (fallback : α) : r.respelled.orElse name fallback read = r.orElse name fallback read := by
  rw [orElse, lookup_respelled, orElse]
  cases r.lookup name with
  | none => rfl
  | some o => exact hread o

theorem required_respelled (hread : ∀ o, read o.respelled = read o) (r : Record) (name : String) :
    r.respelled.required name read = r.required name read := by
  rw [required, lookup_respelled, required]
  cases r.lookup name with
  | none => rfl
  | some o => exact hread o

/-- Takes in a member under the name of its field, unless the field is there. -/
def put? (fields : List Field) (key : String) (item : Outline) (r : Record) : Option Record :=
  (fields.find? fun f => f.accepts key).elim (some r) fun f =>
    if r.any fun x => x.1 == f.name then none else some ((f.name, item) :: r)

theorem ofMembers?_cons (fields : List Field) (key : List Piece) (item : Outline)
    (rest : List (List Piece × Outline)) : ofMembers? fields ((key, item) :: rest) =
      (text? key).bind fun key => (ofMembers? fields rest).bind (put? fields key item) := by
  unfold put?
  rw [ofMembers?]
  cases text? key with
  | none => rfl
  | some key =>
    cases ofMembers? fields rest with
    | none => rfl
    | some r =>
      dsimp only [Option.bind_eq_bind, Option.bind_some]
      cases fields.find? fun f => f.accepts key <;> rfl

theorem put?_respelled (fields : List Field) (key : String) (item : Outline) (r : Record) :
    put? fields key item.respelled r.respelled = (put? fields key item r).map respelled := by
  have hany (f : Field) : r.respelled.any (fun x => x.1 == f.name) =
      r.any fun x => x.1 == f.name := List.any_map
  unfold put?
  cases fields.find? fun f => f.accepts key with
  | none => rfl
  | some f =>
    rw [Option.elim_some, Option.elim_some, hany, apply_ite (Option.map respelled)]
    rfl

theorem ofMembers?_respelled (fields : List Field) (members : List (List Piece × Outline)) :
    ofMembers? fields (membersRespelled members) = (ofMembers? fields members).map respelled := by
  induction members with
  | nil => rfl
  | cons m rest ih =>
    obtain ⟨key, item⟩ := m
    rw [membersRespelled, ofMembers?_cons, text?_respelled, ih, ofMembers?_cons]
    cases text? key with
    | none => rfl
    | some key =>
      cases ofMembers? fields rest with
      | none => rfl
      | some r => exact put?_respelled fields key item r

theorem ofItems?_respelled (fields : List Field) (items : List Outline) :
    ofItems? fields (itemsRespelled items) = (ofItems? fields items).map respelled := by
  induction items generalizing fields with
  | nil => cases fields <;> rfl
  | cons item rest ih =>
    cases fields with
    | nil => rfl
    | cons f fields =>
      rw [itemsRespelled, ofItems?, ih, ofItems?, Option.map_map, Option.map_map]
      rfl

theorem ofOutline?_respelled (fields : List Field) (o : Outline) :
    ofOutline? fields o.respelled = (ofOutline? fields o).map respelled := by
  cases o with
  | array items => exact ofItems?_respelled fields items
  | object members => exact ofMembers?_respelled fields members
  | _ => rfl

/-- The own names of fields, none of them twice. -/
def AreNamed (fields : List Field) (names : List String) : Prop :=
  (∀ name ∈ names, (fields.find? fun f => f.accepts name).map Field.name = some name) ∧ names.Nodup

instance (fields : List Field) (names : List String) : Decidable (AreNamed fields names) :=
  inferInstanceAs (Decidable (_ ∧ _))

theorem ofOutline?_ofMembers {fields : List Field} {members : List (String × Outline)}
    {names : List String} (hnames : AreNamed fields names)
    (hmembers : members.map Prod.fst = names) :
    ofOutline? fields (Outline.ofMembers members) = some members := by
  change ofMembers? fields (members.map fun m => ((Text.Utf8.encode m.1).map .byte, m.2)) = _
  induction members generalizing names with
  | nil => rfl
  | cons m rest ih =>
    subst hmembers
    obtain ⟨hown, hdistinct⟩ := hnames
    obtain ⟨hnew, hlater⟩ := List.nodup_cons.1 hdistinct
    obtain ⟨f, hf, hname⟩ := Option.map_eq_some_iff.1 (hown m.1 List.mem_cons_self)
    have hrest := ih ⟨fun name h => hown name (List.mem_cons_of_mem _ h), hlater⟩ rfl
    have hany : ¬(rest.any fun r => r.1 == f.name) = true := by
      rw [List.any_eq_true]
      rintro ⟨r, hr, hsame⟩
      exact hnew ((eq_of_beq hsame).trans hname ▸ List.mem_map_of_mem hr)
    rw [List.map_cons, ofMembers?_cons, text?_byte, hrest, Option.bind_some, Option.bind_some, put?,
      hf, Option.elim_some, if_neg hany, hname]

end Record

theorem isExact_byte {bytes : List UInt8} : ∀ p ∈ bytes.map Piece.byte, p.IsExact := by
  intro p hp
  obtain ⟨b, -, rfl⟩ := List.mem_map.1 hp
  trivial

namespace Outline

theorem isExact_ofString (s : String) : (ofString s).IsExact := .string isExact_byte

theorem isExact_ofNat {n : Nat} (hn : n ≤ maxWord) : (ofNat n).IsExact :=
  .number ⟨hn, fun _ => rfl⟩

theorem isExact_ofMembers {members : List (String × Outline)}
    (h : ∀ m ∈ members, m.2.IsExact) : (ofMembers members).IsExact := by
  apply IsExact.object
  · intro m hm
    obtain ⟨m, -, rfl⟩ := List.mem_map.1 hm
    exact isExact_byte
  · intro m hm
    obtain ⟨m', hm', rfl⟩ := List.mem_map.1 hm
    exact h m' hm'

theorem string?_ofString (s : String) : (ofString s).string? = some s := text?_byte s

theorem natural?_ofNat {n bound : Nat} (hn : n ≤ bound) : (ofNat n).natural? bound = some n :=
  if_pos ⟨rfl, Bool.false_ne_true, rfl, hn⟩

end Outline

end Json

namespace Topology

open Json

theorem side?_respelled (o : Outline) : side? o.respelled = side? o := by
  cases o with
  | string s => exact congrArg (Option.bind · _) (text?_respelled s)
  | _ => rfl

theorem Member.ofOutline?_respelled (o : Outline) :
    Member.ofOutline? o.respelled = Member.ofOutline? o := by
  have hport (o : Outline) : port? o.respelled = port? o :=
    congrArg (Option.map UInt16.ofNat) (o.natural?_respelled _)
  have hweight (o : Outline) : weight? o.respelled = weight? o :=
    congrArg (Option.map UInt32.ofNat) (o.natural?_respelled _)
  unfold Member.ofOutline?
  rw [Record.ofOutline?_respelled]
  cases Record.ofOutline? Member.fields o with
  | none => rfl
  | some r =>
    change (r.respelled.required "id" Outline.string?).bind _ = _
    simp only [Record.required_respelled Outline.string?_respelled,
      Record.orElse_respelled hport, Record.orElse_respelled hweight,
      Record.orElse_respelled side?_respelled]
    rfl

namespace Document

theorem members?_respelled (o : Outline) : members? o.respelled = members? o := by
  rw [members?, Outline.items?_respelled, members?]
  cases o.items? with
  | none => rfl
  | some items =>
    change (items.map Outline.respelled).mapM Member.ofOutline? = items.mapM Member.ofOutline?
    rw [List.mapM_map]
    exact congrArg (List.mapM · items) (funext Member.ofOutline?_respelled)

theorem ofOutline?_respelled (o : Outline) : ofOutline? o.respelled = ofOutline? o := by
  have hbyte (o : Outline) : byte? o.respelled = byte? o :=
    congrArg (Option.map UInt8.ofNat) (o.natural?_respelled _)
  unfold ofOutline?
  rw [Record.ofOutline?_respelled]
  cases Record.ofOutline? fields o with
  | none => rfl
  | some r =>
    change (r.respelled.orElse "write_copies" 0 byte?).bind _ = _
    simp only [Record.orElse_respelled hbyte, Record.orElse_respelled members?_respelled]
    rfl

end Document

/-! ### Documents as they are written -/

theorem side?_code (side : Side) : side? (Outline.ofString side.code) = some side := by
  have hparse : (Side.parse side.code).toOption = some side := by
    cases side <;> decide +kernel
  change ((Outline.ofString side.code).string?.bind fun s => (Side.parse s).toOption) = some side
  rw [Outline.string?_ofString, Option.bind_some, hparse]

theorem port?_ofNat (n : UInt16) : port? (Outline.ofNat n.toNat) = some n := by
  rw [port?, Outline.natural?_ofNat (Nat.le_of_lt_succ n.toNat_lt), Option.map_some,
    UInt16.ofNat_toNat]

theorem weight?_ofNat (n : UInt32) : weight? (Outline.ofNat n.toNat) = some n := by
  rw [weight?, Outline.natural?_ofNat (Nat.le_of_lt_succ n.toNat_lt), Option.map_some,
    UInt32.ofNat_toNat]

theorem byte?_ofNat (n : UInt8) : byte? (Outline.ofNat n.toNat) = some n := by
  rw [byte?, Outline.natural?_ofNat (Nat.le_of_lt_succ n.toNat_lt), Option.map_some,
    UInt8.ofNat_toNat]

namespace Member

theorem ofOutline?_of_record {o : Outline} {r : Record} {m : Member}
    (hr : Record.ofOutline? fields o = some r)
    (hid : r.required "id" Outline.string? = some m.id)
    (haddress : r.required "address" Outline.string? = some m.address)
    (hport : r.orElse "port" 0 port? = some m.port)
    (hapiPort : r.orElse "apiport" 0 port? = some m.apiPort)
    (hweight : r.orElse "weight" 0 weight? = some m.weight)
    (hside : r.orElse "side" .none side? = some m.side) : ofOutline? o = some m := by
  simp only [ofOutline?, hr, hid, haddress, hport, hapiPort, hweight, hside, Option.bind_eq_bind,
    Option.bind_some, Option.pure_def]

theorem ofOutline?_outline (m : Member) : ofOutline? m.outline = some m := by
  have hnames : Record.AreNamed fields ["id", "address", "port", "apiport", "weight", "side"] := by
    decide
  refine ofOutline?_of_record (Record.ofOutline?_ofMembers hnames (by rfl)) ?_ ?_ ?_ ?_ ?_ ?_
  · exact Outline.string?_ofString m.id
  · exact Outline.string?_ofString m.address
  · exact port?_ofNat m.port
  · exact port?_ofNat m.apiPort
  · exact weight?_ofNat m.weight
  · exact side?_code m.side

theorem isExact_outline (m : Member) : m.outline.IsExact := by
  apply Outline.isExact_ofMembers
  simp only [List.forall_mem_cons]
  refine ⟨?_, ?_, ?_, ?_, ?_, ?_, ?_⟩
  · exact Outline.isExact_ofString m.id
  · exact Outline.isExact_ofString m.address
  · exact Outline.isExact_ofNat (m.port.toNat_lt.le.trans (by decide))
  · exact Outline.isExact_ofNat (m.apiPort.toNat_lt.le.trans (by decide))
  · exact Outline.isExact_ofNat (m.weight.toNat_lt.le.trans (by decide))
  · exact Outline.isExact_ofString m.side.code
  · exact fun x hx => absurd hx List.not_mem_nil

end Member

namespace Document

theorem ofOutline?_of_record {o : Outline} {r : Record} {d : Document}
    (hr : Record.ofOutline? fields o = some r)
    (hcopies : r.orElse "write_copies" 0 byte? = some d.writeCopies)
    (hlegacy : r.orElse "writecopies" 0 byte? = some d.legacyWriteCopies)
    (hmembers : r.orElse "nodes" [] members? = some d.members) : ofOutline? o = some d := by
  simp only [ofOutline?, hr, hcopies, hlegacy, hmembers, Option.bind_eq_bind, Option.bind_some,
    Option.pure_def]

theorem members?_outline (ms : List Member) :
    members? (.array (ms.map Member.outline)) = some ms := by
  change (ms.map Member.outline).mapM Member.ofOutline? = some ms
  induction ms with
  | nil => rfl
  | cons m rest ih =>
    rw [List.map_cons, List.mapM_cons, m.ofOutline?_outline, ih]
    rfl

theorem ofOutline?_outline (d : Document) : ofOutline? d.outline = some d := by
  unfold outline
  split_ifs with hlegacy
  · have hnames : Record.AreNamed fields ["write_copies", "nodes"] := by decide
    refine ofOutline?_of_record (Record.ofOutline?_ofMembers hnames (by rfl)) ?_ ?_ ?_
    · exact byte?_ofNat d.writeCopies
    · exact congrArg some hlegacy.symm
    · exact members?_outline d.members
  · have hnames : Record.AreNamed fields ["write_copies", "writecopies", "nodes"] := by decide
    refine ofOutline?_of_record (Record.ofOutline?_ofMembers hnames (by rfl)) ?_ ?_ ?_
    · exact byte?_ofNat d.writeCopies
    · exact byte?_ofNat d.legacyWriteCopies
    · exact members?_outline d.members

theorem isExact_outline (d : Document) : d.outline.IsExact := by
  have hcopies (n : UInt8) : (Outline.ofNat n.toNat).IsExact :=
    Outline.isExact_ofNat (n.toNat_lt.le.trans (by decide))
  have hmembers : (Outline.array (d.members.map Member.outline)).IsExact := by
    apply Outline.IsExact.array
    intro o ho
    obtain ⟨m, -, rfl⟩ := List.mem_map.1 ho
    exact m.isExact_outline
  apply Outline.isExact_ofMembers
  rw [List.forall_mem_cons, List.forall_mem_append, List.forall_mem_singleton]
  refine ⟨hcopies _, ?_, hmembers⟩
  split_ifs
  · exact fun m hm => absurd hm List.not_mem_nil
  · exact List.forall_mem_singleton.2 (hcopies _)

def written (d : Document) : Input := d.outline.written

theorem parse_written (d : Document) : parse d.written = .ok d := by
  rw [parse, written, Outline.parse?_written d.isExact_outline, Option.bind_some,
    ofOutline?_respelled, ofOutline?_outline]

example : ({} : Document).written = Text.Utf8.encode "\x7b\"write_copies\":0,\"nodes\":[]\x7d" := by
  decide +kernel

theorem effectiveWriteCopies_ne_zero (d : Document) : d.effectiveWriteCopies ≠ 0 := by
  unfold effectiveWriteCopies
  split_ifs with hcopies hlegacy
  · exact hcopies
  · exact hlegacy
  · decide

/-- A document is read back from the text that is written for it. So whatever text it was first
read from, it is the same document when it is written and read again, with the same number of
copies, which is never zero, and it compiles to the same ring or fails in the same way. -/
theorem documents_survive_writing :
    (∀ d : Document, parse d.written = .ok d) ∧
      ∀ bytes d, parse bytes = .ok d → ∃ d', parse d.written = .ok d' ∧ parse bytes = .ok d' ∧
        d'.effectiveWriteCopies = d.effectiveWriteCopies ∧ d'.effectiveWriteCopies ≠ 0 ∧
        ∀ declared, d'.compile declared = d.compile declared :=
  ⟨parse_written, fun _ d h => ⟨d, d.parse_written, h, rfl, d.effectiveWriteCopies_ne_zero,
    fun _ => rfl⟩⟩

def looseText : List UInt8 :=
  Text.Utf8.encode ("\x7b\"nodes\":[[\"n1\",\"h1\",1,2,3,null],\x7b\"id\":\"n2\",\"zone\":[1]," ++
    "\"address\":\"h2\",\"api_port\":7,\"side\":\" A \"\x7d],\"writecopies\":3\x7d")

def looseDocument : Document where
  legacyWriteCopies := 3
  members :=
    [{ id := "n1", address := "h1", port := 1, apiPort := 2, weight := 3 },
      { id := "n2", address := "h2", apiPort := 7, side := .a }]

theorem looseDocument_survives_writing :
    parse looseText = .ok looseDocument ∧ looseDocument.written ≠ looseText ∧
      ∃ d', parse looseDocument.written = .ok d' ∧ parse looseText = .ok d' ∧
        d'.effectiveWriteCopies = 3 := by
  have hparse : parse looseText = .ok looseDocument := by decide +kernel
  obtain ⟨d', hwritten, hread, hcopies, -⟩ :=
    documents_survive_writing.2 looseText looseDocument hparse
  exact ⟨hparse, by decide +kernel, d', hwritten, hread, hcopies⟩

end Document

end Topology

end MetricRing
