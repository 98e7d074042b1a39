import PixelMachine.Manifest.Document
import Mathlib.Data.List.Forall2
import Mathlib.Data.List.Induction

/-!
# Values and their documents

The members of an object have no order, so a document may be handed on with its members in another one.
Two documents that differ in nothing else say the same (`Value.Same`), and a value is restored if it is
read from every document that says the same as its own (`Codec.Restores`).

Bytes, texts and everything made of them are restored. A number is restored if it is a 64-bit word, and a
record if its fields are; the fields are looked up by their keys, so nothing hangs on their order. What is
read from a document, be it written in this way or not, has only words for numbers, so it is restored too
(`Codec.Reliable`). A legend alone is not restored exactly, for its symbols come in the order of the
document; but it has the same colours, and it is written as it was read (`exists_decode_legend`).

The main result is `roundTrips`.
-/

set_option autoImplicit false

namespace PixelMachine

/-! ## Values in 64-bit words -/

/-- A function at a place in 64-bit words. -/
def FunctionSlot.Fits (slot : FunctionSlot) : Prop := slot.location.Fits

/-- A handler at a place in 64-bit words. -/
def TryHandler.Fits (handler : TryHandler) : Prop := handler.location.Fits

/-- A bound function at a place in 64-bit words. -/
def BoundFunction.Fits (f : BoundFunction) : Prop := f.slot.Fits

/-- A snapshot whose numbers are 64-bit words. -/
structure Snapshot.Fits (s : Snapshot) : Prop where
  steps : IsWord s.steps
  location : s.location.Fits
  functions : ∀ f ∈ s.functions, f.Fits
  tryHandler : ∀ handler ∈ s.tryHandler, handler.Fits
  callDepth : IsWord s.callDepth
  inputPosition : IsWord s.inputPosition

/-- Two manifests with the same legend, but for the order of the symbols, and otherwise equal. -/
def Manifest.Alike (m n : Manifest) : Prop :=
  n = { m with legend := n.legend } ∧ ∀ symbol, n.legend.colour? symbol = m.legend.colour? symbol

namespace Json

open Codec

/-! ## Documents that say the same -/

section Lookup

variable {α : Type} {l : List (String × α)} {key : String} {a : α}

/-- A lookup finds something exactly under the keys of the list. -/
theorem lookup_isSome_iff_mem : (l.lookup key).isSome ↔ key ∈ l.map Prod.fst := by
  simp [List.lookup_isSome_iff]

/-- What a lookup finds is in the list. -/
theorem mem_of_lookup (h : l.lookup key = some a) : (key, a) ∈ l := by
  obtain ⟨before, after, rfl, -⟩ := List.lookup_eq_some_iff.1 h
  exact List.mem_append_right _ List.mem_cons_self

/-- With different keys, everything in a list is found under its key. -/
theorem lookup_of_mem (hnodup : (l.map Prod.fst).Nodup) (h : (key, a) ∈ l) : l.lookup key = some a := by
  induction l with
  | nil => cases h
  | cons e rest ih =>
    rw [List.map_cons, List.nodup_cons] at hnodup
    obtain rfl | hrest := List.mem_cons.1 h
    · exact List.lookup_cons_self
    · have hne : key ≠ e.1 := by
        rintro rfl
        exact hnodup.1 (List.mem_map.2 ⟨(e.1, a), hrest, rfl⟩)
      rw [List.lookup_cons, beq_eq_false_iff_ne.2 hne]
      exact ih hnodup.2 hrest

/-- A lookup in mapped values finds the mapped value. -/
theorem lookup_map {β : Type} (f : α → β) (l : List (String × α)) (key : String) :
    (l.map fun e => (e.1, f e.2)).lookup key = (l.lookup key).map f := by
  induction l with
  | nil => rfl
  | cons e rest ih =>
    rw [List.map_cons, List.lookup_cons, List.lookup_cons, ih]
    cases key == e.1 <;> rfl

end Lookup

namespace Value

/-- Documents that differ in nothing but the order of the members of objects. -/
inductive Same : Value → Value → Prop where
  | refl (v : Value) : Same v v
  | list {items items' : List Value} (h : List.Forall₂ Same items items') :
      Same (.list items) (.list items')
  /-- Objects with the same keys, and the same under each key. -/
  | object {members members' : List (String × Value)}
      (hkeys : (members.map Prod.fst).Perm (members'.map Prod.fst))
      (hvalues : ∀ key v v', members.lookup key = some v → members'.lookup key = some v' → Same v v') :
      Same (.object members) (.object members')

namespace Same

variable {v w : Value} {items : List Value} {members members' : List (String × Value)} {key : String}

/-- A document that says the same as a list is a list whose items say the same. -/
theorem of_list (h : Same (.list items) w) :
    ∃ items', w = .list items' ∧ List.Forall₂ Same items items' := by
  cases h with
  | refl => exact ⟨items, rfl, List.forall₂_same.2 fun v _ => .refl v⟩
  | list h => exact ⟨_, rfl, h⟩

/-- A document that says the same as an object is an object. -/
theorem of_object (h : Same (.object members) w) :
    ∃ members', w = .object members' ∧ Same (.object members) (.object members') := by
  cases h with
  | refl => exact ⟨members, rfl, .refl _⟩
  | object hkeys hvalues => exact ⟨_, rfl, .object hkeys hvalues⟩

/-- Objects that say the same have the same keys, in some order. -/
theorem keys (h : Same (.object members) (.object members')) :
    (members.map Prod.fst).Perm (members'.map Prod.fst) := by
  cases h with
  | refl => exact .refl _
  | object hkeys hvalues => exact hkeys

/-- Objects that say the same have under each key what says the same. -/
theorem values (h : Same (.object members) (.object members')) (hv : members.lookup key = some v)
    (hw : members'.lookup key = some w) : Same v w := by
  cases h with
  | refl =>
    cases hv.symm.trans hw
    exact .refl v
  | object hkeys hvalues => exact hvalues key v w hv hw

/-- What an object has under a key, the other has under the same key. -/
theorem member (h : Same (.object members) (.object members')) (key : String)
    (hv : members.lookup key = some v) : ∃ w, members'.lookup key = some w ∧ Same v w := by
  have hmem : key ∈ members.map Prod.fst := lookup_isSome_iff_mem.1 (by rw [hv]; rfl)
  obtain ⟨w, hw⟩ := Option.isSome_iff_exists.1 (lookup_isSome_iff_mem.2 (h.keys.mem_iff.1 hmem))
  exact ⟨w, hw, h.values hv hw⟩

/-- An object says the same in any order of its members. -/
theorem of_perm (hnodup : (members.map Prod.fst).Nodup) (h : members.Perm members') :
    Same (.object members) (.object members') := by
  have hkeys := h.map Prod.fst
  refine .object hkeys ?_
  intro key v v' hv hv'
  have hmem := h.mem_iff.1 (mem_of_lookup hv)
  rw [lookup_of_mem (hkeys.nodup_iff.1 hnodup) hmem] at hv'
  cases hv'
  exact .refl v

/-- An object with one member leaves nothing to order. -/
theorem of_singleton (h : Same (.object [(key, v)]) w) : ∃ v', w = .object [(key, v')] ∧ Same v v' := by
  obtain ⟨members', rfl, h⟩ := h.of_object
  have hkeys : members'.map Prod.fst = [key] := List.perm_singleton.1 h.keys.symm
  obtain ⟨⟨key', v'⟩, rfl, rfl⟩ := List.map_eq_singleton_iff.1 hkeys
  exact ⟨v', rfl, h.values List.lookup_cons_self List.lookup_cons_self⟩

end Same

end Value

open Value (Same)

/-! ## Values that are restored -/

namespace Codec

variable {α : Type} [Codec α] {a : α} {members members' : List (String × Value)}

/-- A value is read from every document that says the same as its own. -/
def Restores (a : α) : Prop := ∀ v, Same (encode a) v → decode v = some a

/-- Whatever is read from a document is restored from its own. -/
def Reliable (α : Type) [Codec α] : Prop := ∀ v (a : α), decode v = some a → Restores a

/-- A value that is restored is read from its field, in whatever order the fields come. -/
theorem Restores.needed (h : Restores a) (hsame : Same (.object members) (.object members'))
    (key : String) (hkey : members.lookup key = some (encode a)) :
    needed (members'.lookup key) = some a := by
  obtain ⟨w, hw, hsame⟩ := hsame.member key hkey
  rw [Codec.needed, hw]
  exact h w hsame

/-- A value that is restored is read from its field also where the field might be missing. -/
theorem Restores.orElse (h : Restores a) (hsame : Same (.object members) (.object members'))
    (key : String) (hkey : members.lookup key = some (encode a)) (missing : α) :
    orElse missing (members'.lookup key) = some a := by
  obtain ⟨w, hw, hsame⟩ := hsame.member key hkey
  rw [hw]
  exact h w hsame

/-- What is read from a field that must be there is restored. -/
theorem Reliable.needed (h : Reliable α) {field : Option Value} (hfield : needed field = some a) :
    Restores a := by
  obtain ⟨v, -, hv⟩ := Option.bind_eq_some_iff.1 hfield
  exact h v a hv

/-- What is read from a field that may be missing is restored, if what stands for a missing one is. -/
theorem Reliable.orElse (h : Reliable α) {field : Option Value} {missing : α}
    (hmissing : Restores missing) (hfield : orElse missing field = some a) : Restores a := by
  cases field with
  | none =>
    cases hfield
    exact hmissing
  | some v => exact h v a hfield

/-! ## Building blocks -/

/-- A byte is restored. -/
theorem restores_byte (b : UInt8) : Restores b := by
  intro v h
  cases h
  exact Value.byte?_byte b

/-- A signed byte is restored. -/
theorem restores_signedByte (n : Int8) : Restores n := by
  intro v h
  cases h
  have hlo := n.le_toInt
  have hhi := n.toInt_lt
  have hrange : -128 ≤ n.toInt ∧ n.toInt < 128 := by omega
  simp [decode, encode, Value.signedByte?, hrange]

/-- A number is restored if it is a 64-bit word. -/
theorem restores_word {n : Nat} (h : IsWord n) : Restores n := by
  intro v hsame
  cases hsame
  exact Value.word?_nat h

/-- A text is restored. -/
theorem restores_string (s : String) : Restores s := by
  intro v h
  cases h
  rfl

/-- Whatever byte is read is restored. -/
theorem reliable_byte : Reliable UInt8 := fun _ b _ => restores_byte b

/-- Whatever number is read is a word, and so it is restored. -/
theorem reliable_word : Reliable Nat := by
  intro v n h
  apply restores_word
  simp only [decode, Value.word?, Value.natBelow?] at h
  split at h
  · split at h
    · cases h
      assumption
    · cases h
  · cases h

/-- A list is restored if its items are. -/
theorem restores_list {items : List α} (h : ∀ a ∈ items, Restores a) : Restores items := by
  intro v hsame
  obtain ⟨documents, rfl, hitems⟩ := hsame.of_list
  clear hsame
  change documents.mapM decode = some items
  induction items generalizing documents with
  | nil =>
    cases hitems
    rfl
  | cons a rest ih =>
    rw [List.map_cons] at hitems
    cases hitems with
    | cons hfirst hrest =>
      have hdecode := h a List.mem_cons_self _ hfirst
      have htail := ih (fun b hb => h b (List.mem_cons_of_mem _ hb)) _ hrest
      simp [hdecode, htail]

/-- What is read from a list of documents is read from them one by one. -/
theorem exists_of_mapM {items : List α} {documents : List Value}
    (h : documents.mapM decode = some items) : ∀ a ∈ items, ∃ v, decode v = some a := by
  induction documents generalizing items with
  | nil =>
    cases h
    exact fun a ha => absurd ha List.not_mem_nil
  | cons v rest ih =>
    simp only [List.mapM_cons, Option.bind_eq_bind, Option.bind_eq_some_iff] at h
    obtain ⟨first, hfirst, tail, htail, h⟩ := h
    cases h
    intro a ha
    obtain rfl | ha := List.mem_cons.1 ha
    · exact ⟨v, hfirst⟩
    · exact ih htail a ha

/-- Whatever list is read is restored, if this holds of its items. -/
theorem reliable_list (h : Reliable α) : Reliable (List α) := by
  intro v items hitems
  apply restores_list
  intro a ha
  obtain ⟨documents, -, hdocuments⟩ := Option.bind_eq_some_iff.1 hitems
  obtain ⟨w, hw⟩ := exists_of_mapM hdocuments a ha
  exact h w a hw

/-- The absence of a value is restored. -/
theorem restores_none : Restores (none : Option α) := by
  intro v h
  cases h
  rfl

/-- An optional value is restored if null does not stand for a value. -/
theorem restores_option (hnull : (decode .null : Option α) = none) {o : Option α}
    (h : ∀ a ∈ o, Restores a) : Restores o := by
  cases o with
  | none => exact restores_none
  | some a =>
    intro v hsame
    have hdecode := h a rfl v hsame
    simp only [decode]
    split
    · rw [hnull] at hdecode
      cases hdecode
    · change (decode v).map some = some (some a)
      rw [hdecode]
      rfl

/-- Whatever optional value is read is restored, if null does not stand for a value. -/
theorem reliable_option (hnull : (decode .null : Option α) = none) (h : Reliable α) :
    Reliable (Option α) := by
  intro v o ho
  apply restores_option hnull
  rintro a rfl
  simp only [decode] at ho
  split at ho
  · cases ho
  · obtain ⟨b, hb, hba⟩ := Option.map_eq_some_iff.1 ho
    obtain rfl : b = a := Option.some.inj hba
    exact h v b hb

/-- A type whose values are written as names is restored if each value is found under its name. -/
theorem restores_of_name {name : α → String} {ofName? : String → Option α}
    (hencode : ∀ a : α, encode a = .string (name a))
    (hdecode : ∀ v, (decode v : Option α) = (unitCase? v).bind ofName?)
    (hname : ∀ a, ofName? (name a) = some a) (a : α) : Restores a := by
  intro v h
  rw [hencode] at h
  cases h
  exact (hdecode _).trans (hname a)

/-! ## Records of two fields -/

/-- Reads a record of two fields. -/
def pair? {β γ : Type} [Codec β] (first second : String) (make : α → β → γ) (v : Value) : Option γ := do
  match ← allFields? [first, second] v with
  | [x, y] => some (make (← needed x) (← needed y))
  | _ => none

section Pair

variable {β γ : Type} [Codec β] {b : β} {first second : String} {v : Value}

/-- A record of two restored fields is read from every document that says the same. -/
theorem pair?_of_same (make : α → β → γ) (hkeys : second ≠ first) (ha : Restores a) (hb : Restores b)
    (h : Same (.object [(first, encode a), (second, encode b)]) v) :
    pair? first second make v = some (make a b) := by
  obtain ⟨members, rfl, h⟩ := h.of_object
  have hfirst := ha.needed h first (by simp)
  have hsecond := hb.needed h second (by simp [List.lookup_cons, beq_eq_false_iff_ne.2 hkeys])
  simp [pair?, allFields?, fields?, hfirst, hsecond]

/-- A record of two fields that is read is made of restored fields. -/
theorem exists_of_pair? (make : α → β → γ) (hα : Reliable α) (hβ : Reliable β) {c : γ}
    (h : pair? first second make v = some c) : ∃ a b, Restores a ∧ Restores b ∧ c = make a b := by
  obtain ⟨fields, -, h⟩ := Option.bind_eq_some_iff.1 h
  split at h
  · simp only [Option.bind_eq_bind, Option.bind_eq_some_iff] at h
    obtain ⟨a, ha, b, hb, h⟩ := h
    cases h
    exact ⟨a, b, hα.needed ha, hβ.needed hb, rfl⟩
  · cases h

end Pair

end Codec

/-! ## Machine values -/

/-- A colour is restored. -/
theorem restores_pixel (p : Pixel) : Restores p := by
  intro v h
  obtain ⟨documents, rfl, hitems⟩ := h.of_list
  simp only [Pixel.toList, List.map_cons, List.map_nil] at hitems
  cases hitems with
  | cons hred hitems => cases hitems with
    | cons hgreen hitems => cases hitems with
      | cons hblue hitems =>
        cases hitems
        have hred := restores_byte p.red _ hred
        have hgreen := restores_byte p.green _ hgreen
        have hblue := restores_byte p.blue _ hblue
        simp only [decode] at hred hgreen hblue
        simp [decode, hred, hgreen, hblue]

/-- A place is restored if its coordinates are. -/
theorem restores_location {l : Location} (hx : Restores l.x) (hy : Restores l.y) : Restores l := by
  intro v h
  exact pair?_of_same Location.mk (by decide) hx hy h

/-- Whatever place is read is restored. -/
theorem reliable_location : Reliable Location := by
  intro v l h
  obtain ⟨x, y, hx, hy, rfl⟩ := exists_of_pair? Location.mk reliable_word reliable_word h
  exact restores_location hx hy

/-- A direction is restored. -/
theorem restores_direction (d : Direction) : Restores d := by
  intro v h
  exact pair?_of_same Direction.mk (by decide) (restores_signedByte d.dx)
    (restores_signedByte d.dy) h

/-- A kind of instruction is restored. -/
theorem restores_opcode (k : Opcode) : Restores k :=
  restores_of_name (fun _ => rfl) (fun _ => rfl) (fun k => by cases k <;> rfl) k

/-- An operation is restored. -/
theorem restores_arithmetic (op : Arithmetic) : Restores op :=
  restores_of_name (fun _ => rfl) (fun _ => rfl) (fun op => by cases op <;> rfl) op

/-- A kind of fault is restored. -/
theorem restores_faultKind (kind : FaultKind) : Restores kind :=
  restores_of_name (fun _ => rfl) (fun _ => rfl) (fun kind => by cases kind <;> rfl) kind

/-- An instruction is restored. -/
theorem restores_instruction (i : Instruction) : Restores i := by
  intro v h
  obtain ⟨members, rfl, h⟩ := h.of_object
  have hkind := (restores_opcode i.kind).needed h "kind" rfl
  have hgreen := (restores_byte i.g).needed h "g" rfl
  have hblue := (restores_byte i.b).needed h "b" rfl
  simp [decode, allFields?, fields?, hkind, hgreen, hblue]

/-- A fault is restored. -/
theorem restores_fault (fault : Fault) : Restores fault := by
  intro v h
  cases fault with
  | builtin kind =>
    obtain ⟨content, rfl, hcontent⟩ := h.of_singleton
    change (decode content).map Fault.builtin = some (.builtin kind)
    rw [restores_faultKind kind content hcontent]
    rfl
  | user code =>
    obtain ⟨content, rfl, hcontent⟩ := h.of_singleton
    change (decode content).map Fault.user = some (.user code)
    rw [restores_byte code content hcontent]
    rfl

/-- A status is restored. -/
theorem restores_status (status : Status) : Restores status := by
  intro v h
  cases status with
  | faulted code =>
    obtain ⟨content, rfl, hcontent⟩ := h.of_singleton
    obtain ⟨members, rfl, hmembers⟩ := hcontent.of_object
    have hcode := (restores_byte code).needed hmembers "code" rfl
    simp [decode, hcode]
  | _ =>
    cases h
    rfl

/-- A function is restored if its place is. -/
theorem restores_functionSlot {slot : FunctionSlot} (h : Restores slot.location) : Restores slot := by
  intro v hsame
  exact pair?_of_same FunctionSlot.mk (by decide) h (restores_byte slot.param) hsame

/-- Whatever function is read is restored. -/
theorem reliable_functionSlot : Reliable FunctionSlot := by
  intro v slot h
  obtain ⟨location, param, hlocation, -, rfl⟩ := exists_of_pair? FunctionSlot.mk
    reliable_location reliable_byte h
  exact restores_functionSlot hlocation

/-- A handler is restored if its place is. -/
theorem restores_tryHandler {handler : TryHandler} (h : Restores handler.location) :
    Restores handler := by
  intro v hsame
  exact pair?_of_same TryHandler.mk (by decide) h (restores_byte handler.dest) hsame

/-- Whatever handler is read is restored. -/
theorem reliable_tryHandler : Reliable TryHandler := by
  intro v handler h
  obtain ⟨location, dest, hlocation, -, rfl⟩ := exists_of_pair? TryHandler.mk
    reliable_location reliable_byte h
  exact restores_tryHandler hlocation

/-- A bound function is restored if its place is. -/
theorem restores_boundFunction {f : BoundFunction} (h : Restores f.slot.location) : Restores f := by
  intro v hsame
  obtain ⟨members, rfl, hsame⟩ := hsame.of_object
  have hid := (restores_byte f.id).needed hsame "id" rfl
  have hlocation := h.needed hsame "location" rfl
  have hparam := (restores_byte f.slot.param).needed hsame "param" rfl
  simp [decode, hid, hlocation, hparam]

/-- Whatever bound function is read is restored. -/
theorem reliable_boundFunction : Reliable BoundFunction := by
  intro v f h
  simp only [decode] at h
  split at h
  · simp only [Option.bind_eq_bind, Option.bind_eq_some_iff] at h
    obtain ⟨id, -, location, hlocation, param, -, h⟩ := h
    cases h
    exact restores_boundFunction (reliable_location.needed hlocation)
  · cases h

/-- What has to be restored of a snapshot: its numbers, and the places of its functions and handler. -/
structure RestoresParts (s : Snapshot) : Prop where
  steps : Restores s.steps
  location : Restores s.location
  functions : Restores s.functions
  tryHandler : Restores s.tryHandler
  callDepth : Restores s.callDepth
  inputPosition : Restores s.inputPosition

/-- A snapshot is restored if its numbers and places are. -/
theorem restores_snapshot {s : Snapshot} (hs : RestoresParts s) : Restores s := by
  intro v h
  obtain ⟨members, rfl, h⟩ := h.of_object
  have hstatus := (restores_status s.status).needed h "status" rfl
  have hsteps := hs.steps.needed h "steps" rfl
  have hlocation := hs.location.needed h "location" rfl
  have hdirection := (restores_direction s.direction).needed h "direction" rfl
  have hregisters := (restores_list fun b _ => restores_byte b).needed (a := s.registers) h
    "registers" rfl
  have hfunctions := hs.functions.needed h "functions" rfl
  have htry := hs.tryHandler.orElse h "try_handler" rfl none
  have hdepth := hs.callDepth.needed h "call_depth" rfl
  have hposition := hs.inputPosition.needed h "input_position" rfl
  have houtput := (restores_string s.output).needed h "output" rfl
  simp [decode, allFields?, fields?, maybe, hstatus, hsteps, hlocation, hdirection, hregisters,
    hfunctions, htry, hdepth, hposition, houtput]

/-- Whatever snapshot is read is restored. -/
theorem reliable_snapshot : Reliable Snapshot := by
  intro v s h
  obtain ⟨fields, -, h⟩ := Option.bind_eq_some_iff.1 h
  split at h
  · simp only [Option.bind_eq_bind, Option.bind_eq_some_iff] at h
    obtain ⟨status, -, steps, hsteps, location, hlocation, direction, -, registers, -, functions,
      hfunctions, tryHandler, htry, depth, hdepth, position, hposition, output, -, h⟩ := h
    cases h
    apply restores_snapshot
    exact {
      steps := reliable_word.needed hsteps
      location := reliable_location.needed hlocation
      functions := (reliable_list reliable_boundFunction).needed hfunctions
      tryHandler := (reliable_option rfl reliable_tryHandler).orElse restores_none htry
      callDepth := reliable_word.needed hdepth
      inputPosition := reliable_word.needed hposition }
  · cases h

end Json

/-! ## Manifests -/

namespace Legend

variable {symbol : String} {colour : Pixel}

/-- An entry for a new symbol is put at the end. -/
theorem putEntry_of_not_mem {entries : List (String × Pixel)} (h : symbol ∉ entries.map Prod.fst) :
    putEntry symbol colour entries = entries ++ [(symbol, colour)] := by
  induction entries with
  | nil => rfl
  | cons e rest ih =>
    rw [List.map_cons, List.mem_cons, not_or] at h
    rw [putEntry, if_neg (Ne.symm h.1), ih h.2, List.cons_append]

/-- Entries with different symbols are all kept, in their order. -/
theorem entries_ofList {entries : List (String × Pixel)} (h : (entries.map Prod.fst).Nodup) :
    (ofList entries).entries = entries := by
  induction entries using List.reverseRecOn with
  | nil => rfl
  | append_singleton entries e ih =>
    rw [List.map_append, List.nodup_append] at h
    obtain ⟨hentries, -, hdistinct⟩ := h
    have hnew : e.1 ∉ (ofList entries).entries.map Prod.fst := by
      rw [ih hentries]
      intro hmem
      exact hdistinct e.1 hmem e.1 (List.mem_singleton_self _) rfl
    have hlast : ofList (entries ++ [e]) = (ofList entries).insert e.1 e.2 := by
      rw [ofList, List.foldl_append]
      rfl
    rw [hlast]
    change putEntry e.1 e.2 (ofList entries).entries = entries ++ [e]
    rw [putEntry_of_not_mem hnew, ih hentries]

/-- A legend has the colours of another one if it has the same symbols and each of its entries is one of the
other's. -/
theorem colour?_eq_of_entries {l l' : Legend} (hsymbols : l.symbols.Perm l'.symbols)
    (h : ∀ e ∈ l'.entries, l.colour? e.1 = some e.2) (symbol : String) :
    l'.colour? symbol = l.colour? symbol := by
  cases hlookup : l'.colour? symbol with
  | some p => exact (h _ (Json.mem_of_lookup hlookup)).symm
  | none =>
    have hmissing : symbol ∉ l'.symbols := by
      intro hmem
      have hsome : (l'.colour? symbol).isSome := Json.lookup_isSome_iff_mem.2 hmem
      rw [hlookup] at hsome
      cases hsome
    cases hother : l.colour? symbol with
    | none => rfl
    | some p =>
      have hmem : symbol ∈ l.symbols := Json.lookup_isSome_iff_mem.1 (by rw [← colour?, hother]; rfl)
      exact absurd (hsymbols.mem_iff.1 hmem) hmissing

end Legend

namespace Json

open Codec
open Value (Same)

/-- The entry of a legend that a member of an object stands for. -/
def entryOf? (member : String × Value) : Option (String × Pixel) :=
  (decode member.2).map (Prod.mk member.1)

/-- The members of a legend's object have the symbols for keys. -/
theorem map_fst_members (entries : List (String × Pixel)) :
    (entries.map fun e => (e.1, encode e.2)).map Prod.fst = entries.map Prod.fst := by
  simp

/-- A legend is read from its own document. -/
theorem decode_encode_legend (l : Legend) : decode (encode l) = some l := by
  have hentries : ∀ entries : List (String × Pixel),
      (entries.map fun e => (e.1, encode e.2)).mapM entryOf? = some entries := by
    intro entries
    induction entries with
    | nil => rfl
    | cons e rest ih => simp [entryOf?, restores_pixel e.2 _ (.refl _), ih]
  have hsame : Legend.ofList l.entries = l := by
    have h := Legend.entries_ofList l.nodup
    cases hl : Legend.ofList l.entries
    cases l
    simp_all
  change ((l.entries.map fun e => (e.1, encode e.2)).mapM entryOf?).map Legend.ofList = some l
  rw [hentries, Option.map_some, hsame]

/-- The members of an object are read as entries one by one. -/
theorem exists_mapM_entryOf? {members : List (String × Value)} (colour? : String → Option Pixel)
    (h : ∀ member ∈ members, ∃ p, colour? member.1 = some p ∧ decode member.2 = some p) :
    ∃ entries, members.mapM entryOf? = some entries ∧ entries.map Prod.fst = members.map Prod.fst ∧
      ∀ e ∈ entries, colour? e.1 = some e.2 := by
  induction members with
  | nil => exact ⟨[], rfl, rfl, fun e he => absurd he List.not_mem_nil⟩
  | cons member rest ih =>
    obtain ⟨p, hcolour, hdecode⟩ := h member List.mem_cons_self
    obtain ⟨entries, hentries, hkeys, hcolours⟩ := ih fun m hm => h m (List.mem_cons_of_mem _ hm)
    refine ⟨(member.1, p) :: entries, ?_, ?_, ?_⟩
    · simp [entryOf?, hdecode, hentries]
    · rw [List.map_cons, List.map_cons, hkeys]
    · intro e he
      obtain rfl | he := List.mem_cons.1 he
      · exact hcolour
      · exact hcolours e he

section Legend

variable {l : Legend} {members : List (String × Value)}

/-- An object that says the same as a legend has its symbols for keys, in some order. -/
theorem symbols_perm (h : Same (encode l) (.object members)) : l.symbols.Perm (members.map Prod.fst) := by
  have hkeys := h.keys
  rwa [map_fst_members] at hkeys

/-- What stands under a symbol in a document of a legend is the colour of the symbol. -/
theorem exists_colour_of_mem (h : Same (encode l) (.object members)) {member : String × Value}
    (hmember : member ∈ members) : ∃ p, l.colour? member.1 = some p ∧ Same (encode p) member.2 := by
  have hkeys := symbols_perm h
  have hsymbol : member.1 ∈ l.symbols := hkeys.mem_iff.2 (List.mem_map_of_mem hmember)
  obtain ⟨p, hp⟩ := Option.isSome_iff_exists.1 (lookup_isSome_iff_mem.2 hsymbol)
  refine ⟨p, hp, h.values ?_ (lookup_of_mem (hkeys.nodup_iff.1 l.nodup) hmember)⟩
  rw [lookup_map encode, hp]
  rfl

/-- A legend is read with its colours from every document that says the same, and then written as this
document. -/
theorem exists_decode_legend {v : Value} (h : Same (encode l) v) :
    ∃ l' : Legend, decode v = some l' ∧ (∀ symbol, l'.colour? symbol = l.colour? symbol) ∧
      Same (encode l') v := by
  obtain ⟨members, rfl, h⟩ := h.of_object
  have hkeys := symbols_perm h
  have hdecode : ∀ member ∈ members, ∃ p, l.colour? member.1 = some p ∧ decode member.2 = some p := by
    intro member hmember
    obtain ⟨p, hp, hsame⟩ := exists_colour_of_mem h hmember
    exact ⟨p, hp, restores_pixel p _ hsame⟩
  obtain ⟨entries, hentries, hsymbols, hcolours⟩ := exists_mapM_entryOf? l.colour? hdecode
  have hofList : (Legend.ofList entries).entries = entries := by
    apply Legend.entries_ofList
    rw [hsymbols]
    exact hkeys.nodup_iff.1 l.nodup
  refine ⟨Legend.ofList entries, ?_, ?_, ?_⟩
  · change (members.mapM entryOf?).map Legend.ofList = _
    rw [hentries]
    rfl
  · apply Legend.colour?_eq_of_entries
    · unfold Legend.symbols
      rw [hofList, hsymbols]
      exact hkeys
    · rw [hofList]
      exact hcolours
  · change Same (.object ((Legend.ofList entries).entries.map fun e => (e.1, encode e.2))) _
    rw [hofList]
    refine .object ?_ ?_
    · rw [map_fst_members, hsymbols]
    · intro key v w hv hw
      rw [lookup_map encode] at hv
      obtain ⟨p, hp, rfl⟩ := Option.map_eq_some_iff.1 hv
      obtain ⟨q, hq, hsame⟩ := exists_colour_of_mem h (mem_of_lookup hw)
      obtain rfl : p = q := Option.some.inj ((hcolours _ (mem_of_lookup hp)).symm.trans hq)
      exact hsame

end Legend

/-- Metadata are restored. -/
theorem restores_metadata (m : Metadata) : Restores m := by
  intro v h
  obtain ⟨members, rfl, h⟩ := h.of_object
  have htext : ∀ o : Option String, Restores o :=
    fun o => restores_option rfl fun s _ => restores_string s
  have hname := (restores_string m.name).needed h "name" rfl
  have htitle := (htext m.title).orElse h "title" rfl none
  have hdescription := (htext m.description).orElse h "description" rfl none
  simp [decode, fields?, maybe, hname, htitle, hdescription]

/-- Whatever legend is read, the rest of a manifest is restored. -/
theorem decode_manifest {m : Manifest} {members : List (String × Value)} {l : Legend}
    (h : Same (encode m) (.object members))
    (hlegend : orElse .empty (members.lookup "legend") = some l) :
    decode (.object members) = some { m with legend := l } := by
  have hversion := (restores_string m.apiVersion).orElse h "apiVersion" rfl
    Manifest.currentVersion
  have hkind := (restores_string m.kind).orElse h "kind" rfl Manifest.programKind
  have hmetadata := (restores_metadata m.metadata).orElse h "metadata" rfl ⟨"", none, none⟩
  have hrows := (restores_list fun row _ => restores_string row).orElse (a := m.rows.toList) h
    "rows" rfl []
  have hinput := (restores_string m.input).orElse h "input" rfl ""
  simp [decode, fields?, hversion, hkind, hmetadata, hlegend, hrows, hinput]

/-- A manifest is read from its own document. -/
theorem decode_encode_manifest (m : Manifest) : decode (encode m) = some m :=
  decode_manifest (.refl _) (decode_encode_legend m.legend)

/-- A manifest is read, but for the order of its symbols, from every document that says the same, and is then
written as this document. -/
theorem exists_decode_manifest {m : Manifest} {v : Value} (h : Same (encode m) v) :
    ∃ m', decode v = some m' ∧ m.Alike m' ∧ Same (encode m') v := by
  obtain ⟨members, rfl, h⟩ := h.of_object
  obtain ⟨w, hw, hsame⟩ := h.member "legend" rfl
  obtain ⟨l, hl, hcolours, hagain⟩ := exists_decode_legend hsame
  refine ⟨{ m with legend := l }, decode_manifest h ?_, ⟨rfl, hcolours⟩, ?_⟩
  · rw [hw]
    exact hl
  · refine .object h.keys ?_
    intro key u u' hu hu'
    by_cases hkey : key = "legend"
    · subst hkey
      cases hw.symm.trans hu'
      cases hu
      exact hagain
    · refine h.values ?_ hu'
      simpa [List.lookup_cons, beq_eq_false_iff_ne.2 hkey] using hu

/-! ## Round trips -/

/-- Documents of a type go round. A value that fits is read from its document, and it, or one that is alike,
from all documents that say the same. What is read from any document at all is written as one that is read
again and then written as it is. -/
structure RoundTrips (α : Type) [Codec α] (Fits : α → Prop) (Alike : α → α → Prop) : Prop where
  decode_encode : ∀ a, Fits a → decode (encode a) = some a
  decode_same : ∀ a, Fits a → ∀ v, Same (encode a) v → ∃ b, decode v = some b ∧ Alike a b
  stable : ∀ j (a : α), decode j = some a → ∀ v, Same (encode a) v →
    ∃ b, decode v = some b ∧ Alike a b ∧ Same (encode b) v

/-- Documents of a type go round if what fits and what is read are restored. -/
theorem RoundTrips.of_reliable {α : Type} [Codec α] {Fits : α → Prop} (hfits : ∀ a, Fits a → Restores a)
    (h : Reliable α) : RoundTrips α Fits Eq where
  decode_encode a ha := hfits a ha _ (.refl _)
  decode_same a ha v hv := ⟨a, hfits a ha v hv, rfl⟩
  stable j a ha v hv := ⟨a, h j a ha v hv, rfl, hv⟩

/-- Documents of a type go round if all its values are restored. -/
theorem RoundTrips.of_restores {α : Type} [Codec α] (h : ∀ a : α, Restores a) :
    RoundTrips α (fun _ => True) Eq :=
  .of_reliable (fun a _ => h a) fun _ a _ => h a

/-- A place in 64-bit words is restored. -/
theorem restores_of_fits {l : Location} (h : l.Fits) : Restores l :=
  restores_location (restores_word h.1) (restores_word h.2)

/-- A snapshot in 64-bit words is restored. -/
theorem restores_snapshot_of_fits {s : Snapshot} (h : s.Fits) : Restores s := by
  apply restores_snapshot
  exact {
    steps := restores_word h.steps
    location := restores_of_fits h.location
    functions := restores_list fun f hf => restores_boundFunction (restores_of_fits (h.functions f hf))
    tryHandler := restores_option rfl fun handler hhandler =>
      restores_tryHandler (restores_of_fits (h.tryHandler handler hhandler))
    callDepth := restores_word h.callDepth
    inputPosition := restores_word h.inputPosition }

/-- Documents go round for all of these types, if the numbers in a value are 64-bit words. With the members
in another order, everything is read as it was, but for the order of the symbols in a legend. -/
theorem roundTrips :
    RoundTrips Pixel (fun _ => True) Eq ∧
    RoundTrips Location Location.Fits Eq ∧
    RoundTrips Direction (fun _ => True) Eq ∧
    RoundTrips Opcode (fun _ => True) Eq ∧
    RoundTrips Instruction (fun _ => True) Eq ∧
    RoundTrips Arithmetic (fun _ => True) Eq ∧
    RoundTrips FaultKind (fun _ => True) Eq ∧
    RoundTrips Fault (fun _ => True) Eq ∧
    RoundTrips Status (fun _ => True) Eq ∧
    RoundTrips FunctionSlot FunctionSlot.Fits Eq ∧
    RoundTrips TryHandler TryHandler.Fits Eq ∧
    RoundTrips BoundFunction BoundFunction.Fits Eq ∧
    RoundTrips Snapshot Snapshot.Fits Eq ∧
    RoundTrips Manifest (fun _ => True) Manifest.Alike := by
  refine ⟨.of_restores restores_pixel, ?_, .of_restores restores_direction, .of_restores restores_opcode,
    .of_restores restores_instruction, .of_restores restores_arithmetic, .of_restores restores_faultKind,
    .of_restores restores_fault, .of_restores restores_status, ?_, ?_, ?_, ?_, ?_⟩
  · exact .of_reliable (fun l hl => restores_of_fits hl) reliable_location
  · exact .of_reliable (fun slot h => restores_functionSlot (restores_of_fits h)) reliable_functionSlot
  · exact .of_reliable (fun handler h => restores_tryHandler (restores_of_fits h)) reliable_tryHandler
  · exact .of_reliable (fun f h => restores_boundFunction (restores_of_fits h)) reliable_boundFunction
  · exact .of_reliable (fun s h => restores_snapshot_of_fits h) reliable_snapshot
  · exact {
      decode_encode := fun m _ => decode_encode_manifest m
      decode_same := fun m _ v hv => by
        obtain ⟨m', hdecode, halike, -⟩ := exists_decode_manifest hv
        exact ⟨m', hdecode, halike⟩
      stable := fun j m _ v hv => exists_decode_manifest hv }

/-- A bound function that was not written here: its place is a list, its members are in an order of their
own, and one of them is not read. -/
def boundFunctionNote : Value :=
  .object [("param", .int 9), ("note", .null),
    ("location", .list [.int 3, .int 18446744073709551615]), ("id", .int 5)]

/-- It is read all the same, and what is then written is read again, with its members in reverse as well. -/
theorem roundTrips_boundFunctionNote :
    let f : BoundFunction := ⟨5, ⟨⟨3, 18446744073709551615⟩, 9⟩⟩
    let reversed : Value := .object [("param", encode f.slot.param),
      ("location", encode f.slot.location), ("id", encode f.id)]
    decode boundFunctionNote = some f ∧ decode (encode f) = some f ∧
      ∃ f' : BoundFunction, decode reversed = some f' ∧ f = f' ∧ Same (encode f') reversed := by
  intro f reversed
  have hread : decode boundFunctionNote = some f := by decide
  have hfits : f.slot.location.Fits := by decide
  have hreversed : Same (encode f) reversed := by
    apply Same.of_perm (by decide)
    exact (List.reverse_perm _).symm
  obtain ⟨-, -, -, -, -, -, -, -, -, -, -, hbound, -, -⟩ := roundTrips
  exact ⟨hread, hbound.decode_encode f hfits, hbound.stable _ f hread reversed hreversed⟩

end Json
end PixelMachine
