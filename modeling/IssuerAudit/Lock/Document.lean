import IssuerAudit.Fingerprint
import IssuerAudit.Text.Utf8
/-!
Lock documents: channels of components, and for each component where its signature is
and by which key it has to be made.  Channels keep the order of the file; components are
in ascending order of the UTF-8 bytes of their names.
-/

namespace IssuerAudit.Lock

structure Record where
  /-- Where the signature is; empty if nothing is declared. -/
  signatureUrl : String
  fingerprint : String
  deriving DecidableEq, Repr

/-- Holds if the bytes of one name come before those of another. -/
def nameBefore (a b : String) : Bool :=
  Text.Utf8.bytesOf a < Text.Utf8.bytesOf b

def Ascending (cs : List (String × Record)) : Prop :=
  cs.Pairwise fun a b => nameBefore a.1 b.1 = true

instance (cs : List (String × Record)) : Decidable (Ascending cs) :=
  inferInstanceAs (Decidable (List.Pairwise _ _))

structure Channel where
  name : String
  components : List (String × Record)
  ascending : Ascending components
  deriving DecidableEq, Repr

structure Document where
  channels : List Channel
  deriving DecidableEq, Repr

/-- The record for a declared address and fingerprint as they are written. -/
def Record.ofDeclared (url fingerprint : String) : Record :=
  ⟨Text.trim url, Fingerprint.normalize fingerprint⟩

/-- Puts a component in its place in the order of the names.  If there is one of the
same name, the new component takes its place. -/
def insertComponent (c : String × Record) :
    List (String × Record) → List (String × Record)
  | [] => [c]
  | d :: rest =>
      if nameBefore d.1 c.1 then d :: insertComponent c rest
      else if nameBefore c.1 d.1 then c :: d :: rest
      else c :: rest

/-- The components in the order of their names.  Of several with one name the last is
kept. -/
def sortComponents (cs : List (String × Record)) : List (String × Record) :=
  cs.foldl (fun sorted c => insertComponent c sorted) []

def Document.components (d : Document) : List (String × Record) :=
  d.channels.flatMap (·.components)

def Document.componentCount (d : Document) : Nat :=
  d.components.length

theorem not_nameBefore_self (a : String) : nameBefore a a = false := by
  simp [nameBefore, List.lt_irrefl]

theorem nameBefore_trans {a b c : String} (hab : nameBefore a b = true)
    (hbc : nameBefore b c = true) : nameBefore a c = true := by
  simp only [nameBefore, decide_eq_true_eq] at hab hbc ⊢
  exact List.lt_trans hab hbc

theorem eq_of_not_nameBefore {a b : String} (hab : nameBefore a b = false)
    (hba : nameBefore b a = false) : a = b := by
  simp only [nameBefore, decide_eq_false_iff_not] at hab hba
  exact Text.Utf8.bytesOf_inj.1 (List.le_antisymm hba hab)

theorem names_nodup_of_ascending {cs : List (String × Record)} (h : Ascending cs) :
    (cs.map Prod.fst).Nodup := by
  refine List.pairwise_map.mpr (h.imp ?_)
  intro a b hab same
  rw [same, not_nameBefore_self] at hab
  cases hab

theorem mem_of_mem_insertComponent {c e : String × Record} {cs : List (String × Record)}
    (he : e ∈ insertComponent c cs) : e = c ∨ e ∈ cs := by
  induction cs with
  | nil => exact Or.inl (List.mem_singleton.1 he)
  | cons d rest ih =>
      unfold insertComponent at he
      split at he
      · rcases List.mem_cons.1 he with rfl | he
        · exact Or.inr List.mem_cons_self
        · exact (ih he).imp_right (List.mem_cons_of_mem d)
      · split at he
        · exact List.mem_cons.1 he
        · exact (List.mem_cons.1 he).imp_right (List.mem_cons_of_mem d)

theorem mem_insertComponent {c e : String × Record} {cs : List (String × Record)}
    (hc : ∀ d ∈ cs, d.1 ≠ c.1) : e ∈ insertComponent c cs ↔ e = c ∨ e ∈ cs := by
  refine ⟨mem_of_mem_insertComponent, ?_⟩
  induction cs with
  | nil => simp [insertComponent]
  | cons d rest ih =>
      have hrest := ih fun d hd => hc d (List.mem_cons_of_mem _ hd)
      unfold insertComponent
      split
      · rintro (he | he)
        · exact List.mem_cons_of_mem d (hrest (Or.inl he))
        · rcases List.mem_cons.1 he with rfl | he
          · exact List.mem_cons_self
          · exact List.mem_cons_of_mem d (hrest (Or.inr he))
      · next hdc =>
        split
        · exact List.mem_cons.2
        · next hcd =>
          -- only a component of the same name would be replaced, and there is none
          have same : d.1 = c.1 :=
            eq_of_not_nameBefore (by simpa using hdc) (by simpa using hcd)
          exact absurd same (hc d List.mem_cons_self)

theorem insertComponent_ascending (c : String × Record) {cs : List (String × Record)}
    (h : Ascending cs) : Ascending (insertComponent c cs) := by
  induction cs with
  | nil => exact List.pairwise_singleton _ c
  | cons d rest ih =>
      obtain ⟨hd, hrest⟩ := List.pairwise_cons.1 h
      unfold insertComponent
      split
      · next hdc =>
        refine List.pairwise_cons.2 ⟨fun e he => ?_, ih hrest⟩
        rcases mem_of_mem_insertComponent he with rfl | he
        · exact hdc
        · exact hd e he
      · next hdc =>
        split
        · next hcd =>
          refine List.pairwise_cons.2 ⟨fun e he => ?_, h⟩
          rcases List.mem_cons.1 he with rfl | he
          · exact hcd
          · exact nameBefore_trans hcd (hd e he)
        · next hcd =>
          have same : d.1 = c.1 :=
            eq_of_not_nameBefore (by simpa using hdc) (by simpa using hcd)
          refine List.pairwise_cons.2 ⟨fun e he => ?_, hrest⟩
          rw [← same]
          exact hd e he

/-- Whatever the order and the names of components, sorting them gives each name once,
in ascending order. -/
theorem sortComponents_ascending (cs : List (String × Record)) :
    Ascending (sortComponents cs) := by
  have loop : ∀ sorted : List (String × Record), Ascending sorted →
      Ascending (cs.foldl (fun sorted c => insertComponent c sorted) sorted) := by
    induction cs with
    | nil => exact fun _ h => h
    | cons c rest ih => exact fun sorted h => ih _ (insertComponent_ascending c h)
  exact loop [] List.Pairwise.nil

/-- Sorting components with names of their own neither loses nor adds one. -/
theorem mem_sortComponents {e : String × Record} {cs : List (String × Record)}
    (h : (cs.map Prod.fst).Nodup) : e ∈ sortComponents cs ↔ e ∈ cs := by
  have loop : ∀ sorted : List (String × Record), (∀ d ∈ sorted, d.1 ∉ cs.map Prod.fst) →
      (e ∈ cs.foldl (fun sorted c => insertComponent c sorted) sorted ↔
        e ∈ sorted ∨ e ∈ cs) := by
    induction cs with
    | nil => simp
    | cons c rest ih =>
        intro sorted apart
        obtain ⟨hc, hrest⟩ := List.nodup_cons.1 h
        have other : ∀ d ∈ sorted, d.1 ≠ c.1 := fun d hd same =>
          apart d hd (same ▸ List.mem_cons_self)
        have apart' : ∀ d ∈ insertComponent c sorted, d.1 ∉ rest.map Prod.fst := by
          intro d hd
          rcases (mem_insertComponent other).1 hd with rfl | hd
          · exact hc
          · exact fun mem => apart d hd (List.mem_cons_of_mem _ mem)
        rw [List.foldl_cons, ih hrest _ apart', mem_insertComponent other, List.mem_cons]
        exact or_assoc.trans or_left_comm
  have whole := loop [] fun d hd => absurd hd List.not_mem_nil
  exact whole.trans ⟨fun h => h.resolve_left List.not_mem_nil, Or.inr⟩

end IssuerAudit.Lock
