import Provision.Proofs.Table
import Provision.Toml.Reader

namespace Provision.Toml

variable {α β : Type} {v : Value} {ms new : Members} {k : String} {ks path : List String}
  {o : Origin} {isDotted : Bool} {f : Origin → Members → Option Members}

inductive Value.Distinct : Value → Prop where
  | text (s : String) : Distinct (.text s)
  | integer (i : Int) : Distinct (.integer i)
  | float : Distinct .float
  | boolean (b : Bool) : Distinct (.boolean b)
  | dateTime : Distinct .dateTime
  | array {items : List Value} (h : ∀ v ∈ items, Distinct v) : Distinct (.array items)
  | tables {items : List Value} (h : ∀ v ∈ items, Distinct v) : Distinct (.tables items)
  | table (o : Origin) {ms : List (String × Value)} (hkeys : (Table.keys ms).Nodup)
    (h : ∀ m ∈ ms, Distinct m.2) : Distinct (.table o ms)

namespace Members

structure Distinct (ms : Members) : Prop where
  keys : ms.keys.Nodup
  values : ∀ m ∈ ms, m.2.Distinct

theorem Distinct.nil : Distinct [] := ⟨.nil, by simp⟩

theorem distinct_table (h : Distinct ms) (o : Origin) : (Value.table o ms).Distinct :=
  .table o h.keys h.values

theorem distinct_of_table (h : (Value.table o ms).Distinct) : Distinct ms := by
  cases h with
  | table _ hkeys hvalues => exact ⟨hkeys, hvalues⟩

theorem Distinct.get (h : Distinct ms) (hv : ms.get? k = some v) : v.Distinct :=
  h.values _ ((Table.get?_eq_some_iff h.keys).1 hv)

theorem Distinct.set (h : Distinct ms) (hv : v.Distinct) (k : String) : Distinct (ms.set k v) := by
  refine ⟨Table.nodup_keys_set h.keys k v, fun m hm => ?_⟩
  obtain rfl | hm := Table.mem_of_mem_set hm
  · exact hv
  · exact h.values m hm

def Keeps (f : Origin → Members → Option Members) : Prop :=
  ∀ o ms new, Distinct ms → f o ms = some new → Distinct new

theorem Keeps.within (hf : Keeps f) (isDotted : Bool) (ks : List String) :
    Keeps (within isDotted f ks) := by
  induction ks with
  | nil => exact hf
  | cons k ks ih =>
    intro o ms new h hnew
    simp only [Members.within] at hnew
    split at hnew
    · obtain ⟨inner, hinner, rfl⟩ := Option.map_eq_some_iff.1 hnew
      exact h.set (distinct_table (ih _ _ _ .nil hinner) _) k
    · rename_i o old hold
      split at hnew
      · cases hnew
      split at hnew
      · cases hnew
      obtain ⟨inner, hinner, rfl⟩ := Option.map_eq_some_iff.1 hnew
      have hold := distinct_of_table (h.get hold)
      exact h.set (distinct_table (ih _ _ _ hold hinner) _) k
    · rename_i o old others hold
      split at hnew
      · cases hnew
      obtain ⟨inner, hinner, rfl⟩ := Option.map_eq_some_iff.1 hnew
      cases h.get hold with
      | tables hitems =>
        have hold := distinct_of_table (hitems _ List.mem_cons_self)
        refine h.set (.tables fun v hv => ?_) k
        obtain rfl | hv := List.mem_cons.1 hv
        · exact distinct_table (ih _ _ _ hold hinner) _
        · exact hitems v (List.mem_cons_of_mem _ hv)
    · cases hnew

theorem Distinct.insert (h : Distinct ms) (hv : v.Distinct) (hnew : insert path v o ms = some new) :
    Distinct new := by
  simp only [Members.insert] at hnew
  split at hnew
  · cases hnew
  rename_i k _
  refine Keeps.within ?_ true path.dropLast o ms new h hnew
  intro o ms new h hnew
  dsimp only at hnew
  split at hnew
  · cases hnew
  split at hnew
  · cases hnew
  cases hnew
  exact h.set hv k

theorem Distinct.openTable (h : Distinct ms) (hnew : openTable path ms = some new) :
    Distinct new := by
  simp only [Members.openTable] at hnew
  split at hnew
  · cases hnew
  rename_i k _
  refine Keeps.within ?_ false path.dropLast .header ms new h hnew
  intro o ms new h hnew
  dsimp only at hnew
  split at hnew
  · cases hnew
    exact h.set (distinct_table .nil _) k
  · rename_i inner hold
    cases hnew
    exact h.set (distinct_table (distinct_of_table (h.get hold)) _) k
  · cases hnew

theorem Distinct.openElement (h : Distinct ms) (hnew : openElement path ms = some new) :
    Distinct new := by
  simp only [Members.openElement] at hnew
  split at hnew
  · cases hnew
  rename_i k _
  refine Keeps.within ?_ false path.dropLast .header ms new h hnew
  have hempty : (Value.table .header []).Distinct := distinct_table .nil _
  intro o ms new h hnew
  dsimp only at hnew
  split at hnew
  · cases hnew
    exact h.set (.tables (by simpa using hempty)) k
  · rename_i items hold
    cases hnew
    cases h.get hold with
    | tables hitems => exact h.set (.tables (by simpa [hempty] using hitems)) k
  · cases hnew

theorem Distinct.insertAll {entries : List (List String × Value)} (h : Distinct ms)
    (hentries : ∀ e ∈ entries, e.2.Distinct)
    (hnew : entries.foldlM (fun ms (path, v) => Members.insert path v .inline ms) ms = some new) :
    Distinct new := by
  induction entries generalizing ms with
  | nil =>
    cases hnew
    exact h
  | cons e entries ih =>
    rw [List.foldlM_cons] at hnew
    obtain ⟨mid, hmid, hnew⟩ := Option.bind_eq_some_iff.1 hnew
    have hrest : ∀ e ∈ entries, e.2.Distinct := fun e he => hentries e (List.mem_cons_of_mem _ he)
    exact ih (h.insert (hentries e List.mem_cons_self) hmid) hrest hnew

end Members

namespace Reader

variable {x y : Reader α} {g : α → Reader β} {P : α → Prop} {Q : β → Prop}

def Gives (x : Reader α) (P : α → Prop) : Prop := ∀ cs a r, x.run cs = some (a, r) → P a

theorem Gives.of_forall (h : ∀ a, P a) : Gives x P := fun _ a _ _ => h a

theorem Gives.pure {a : α} (h : P a) : Gives (Pure.pure a) P := by
  intro cs b r hrun
  cases hrun
  exact h

theorem Gives.failure : Gives (failure : Reader α) P := by
  intro cs a r hrun
  cases hrun

theorem Gives.bind (hx : Gives x P) (hg : ∀ a, P a → Gives (g a) Q) : Gives (x >>= g) Q := by
  intro cs b t hrun
  rw [StateT.run_bind] at hrun
  obtain ⟨⟨a, r⟩, hrun, hnext⟩ := Option.bind_eq_some_iff.1 hrun
  exact hg a (hx cs a r hrun) r b t hnext

theorem Gives.next (hg : ∀ a, Gives (g a) Q) : Gives (x >>= g) Q :=
  Gives.bind (.of_forall (P := fun _ => True) fun _ => trivial) fun a _ => hg a

theorem Gives.map {g : α → β} (hx : Gives x P) (hg : ∀ a, P a → Q (g a)) : Gives (g <$> x) Q := by
  rw [map_eq_pure_bind]
  exact hx.bind fun a ha => .pure (hg a ha)

theorem Gives.ite {c : Prop} [Decidable c] (hx : c → Gives x P) (hy : ¬ c → Gives y P) :
    Gives (if c then x else y) P := by
  split
  · exact hx ‹_›
  · exact hy ‹_›

theorem Gives.orFail {a? : Option α} (h : ∀ a, a? = some a → P a) : Gives (orFail a?) P := by
  cases a? with
  | none => exact .failure
  | some a => exact .pure (h a rfl)

theorem gives_items {close : String} (hx : Gives x P) (n : Nat) {acc : List α}
    (hacc : ∀ a ∈ acc, P a) : Gives (items close x n acc) fun as => ∀ a ∈ as, P a := by
  induction n generalizing acc with
  | zero => exact .failure
  | succ n ih =>
    refine .next fun _ => .next fun isClosed => .ite (fun _ => ?_) fun _ => ?_
    · exact .pure (by simpa using hacc)
    refine hx.bind fun a ha => ?_
    have hacc : ∀ b ∈ a :: acc, P b := by simpa [ha] using hacc
    refine .next fun _ => .next fun goesOn => .ite (fun _ => ih hacc) fun _ => ?_
    exact .next fun _ => .pure fun b hb => hacc b (List.mem_reverse.1 hb)

theorem distinct_scalar {cs : List Char} (h : Scalar.value? cs = some v) : v.Distinct := by
  simp only [Scalar.value?] at h
  repeat' split at h
  all_goals cases h
  all_goals constructor

theorem gives_simple : Gives value.simple Value.Distinct := by
  refine .next fun s? => ?_
  cases s? with
  | some s => exact .pure (.text s)
  | none =>
    refine .next fun s => .next fun rest => .ite (fun _ => ?_) fun _ => ?_
    · exact .next fun _ => .next fun _ => .next fun _ => .orFail fun _ => distinct_scalar
    · exact .next fun _ => .orFail fun _ => distinct_scalar

theorem gives_member {value : Reader Value} (hvalue : Gives value Value.Distinct) :
    Gives (member value) fun e => e.2.Distinct :=
  .next fun _ => .next fun _ => .next fun _ => hvalue.bind fun _ hv => .pure hv

theorem gives_value (depth : Nat) : Gives (value depth) Value.Distinct := by
  induction depth with
  | zero => exact gives_simple
  | succ depth ih =>
    refine .next fun isArray => .ite (fun _ => ?_) fun _ => ?_
    · exact .map (.next fun _ => gives_items ih _ (by simp)) fun _ h => .array h
    refine .next fun isTable => .ite (fun _ => ?_) fun _ => gives_simple
    have hnone : ∀ e ∈ ([] : List (List String × Value)), e.2.Distinct := by simp
    refine .next fun _ => (gives_items (gives_member ih) _ hnone).bind fun entries h => ?_
    exact .map (.orFail fun _ => Members.Distinct.nil.insertAll h) fun _ h => Members.distinct_table h _

theorem gives_statement {p : Progress} (h : p.root.Distinct) :
    Gives (statement p) fun q => q.root.Distinct := by
  refine .next fun isElement => .ite (fun _ => ?_) fun _ => ?_
  · refine .next fun _ => .next fun path => .next fun _ => ?_
    exact .bind (.orFail fun _ => h.openElement) fun _ h => .pure h
  refine .next fun isTable => .ite (fun _ => ?_) fun _ => ?_
  · refine .next fun _ => .next fun path => .next fun _ => ?_
    exact .bind (.orFail fun _ => h.openTable) fun _ h => .pure h
  refine (gives_member (gives_value maxDepth)).bind fun e he => ?_
  have hkeeps : Members.Keeps fun _ ms => ms.insert e.1 e.2 .header :=
    fun _ _ _ h hnew => h.insert he hnew
  exact .bind (.orFail fun _ => hkeeps.within false _ _ _ _ h) fun _ h => .pure h

theorem gives_statements (n : Nat) {p : Progress} (h : p.root.Distinct) :
    Gives (statements n p) Members.Distinct := by
  induction n generalizing p with
  | zero => exact .failure
  | succ n ih =>
    refine .next fun _ => .next fun rest => .ite (fun _ => .pure h) fun _ => ?_
    exact (gives_statement h).bind fun q hq => .next fun _ => ih hq

end Reader

theorem Members.distinct_ofText? {s : String} (h : Members.ofText? s = some ms) : ms.Distinct := by
  obtain ⟨⟨_, r⟩, hrun, rfl⟩ := Option.map_eq_some_iff.1 h
  exact Reader.gives_statements _ .nil _ _ r hrun

end Provision.Toml
