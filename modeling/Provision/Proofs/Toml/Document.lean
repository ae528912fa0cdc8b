import Provision.Proofs.Toml.BasicString

namespace Provision.Toml

structure IsBareKey (s : String) : Prop where
  ne_empty : s.toList ≠ []
  bare : ∀ c ∈ s.toList, Reader.isBare c = true

/-- A document that is the header of a table, and a line with a bare key and a basic string. -/
structure Single (text table key value : String) : Prop where
  bare_table : IsBareKey table
  bare_key : IsBareKey key
  written : ∃ body, BasicString body value.toList ∧
    text = "[" ++ table ++ "]\n" ++ key ++ " = \"" ++ .ofList body ++ "\"\n"

namespace Reader

variable {cs r t : List Char} {c : Char} {s k v : String} {body : List Char} {n : Nat}
  {p q : Progress} {ms : Members}

def isSolid (c : Char) : Bool := c ≠ ' ' && c ≠ '\t' && c ≠ '#' && c ≠ '\n' && c ≠ '\r'

theorem isSolid_of_isBare (h : isBare c = true) : isSolid c = true := by
  simp only [isSolid, Bool.and_eq_true, decide_eq_true_eq]
  refine ⟨⟨⟨⟨?_, ?_⟩, ?_⟩, ?_⟩, ?_⟩
  all_goals
    rintro rfl
    exact absurd h (by decide)

theorem reads_noBlanks (h : ∀ c ∈ cs.head?, isSolid c = true) : Reads blanks cs () cs := by
  refine Reads.blanks (w := []) (by simp) fun c hc => ?_
  have hsolid := h c hc
  simp [isSolid] at hsolid
  exact ⟨hsolid.1.1.1.1, hsolid.1.1.1.2⟩

theorem reads_noComment (h : cs.head? ≠ some '#') : Reads comment cs () cs := by
  refine (Reads.peek cs).bind ?_
  rw [if_neg h]
  exact .pure () cs

theorem reads_newline (r : List Char) : Reads newline? ('\n' :: r) true r :=
  (Reads.take "\n" r).bind rfl

theorem reads_noNewline (h : ∀ c ∈ cs.head?, c ≠ '\n' ∧ c ≠ '\r') :
    Reads newline? cs false cs := by
  have hn : ¬ "\n".toList <+: cs := by
    rintro ⟨r, rfl⟩
    simp at h
  have hr : ¬ "\r\n".toList <+: cs := by
    rintro ⟨r, rfl⟩
    simp at h
  exact (Reads.take_none hn).bind (Reads.take_none hr)

theorem reads_noGap (h : ∀ c ∈ cs.head?, isSolid c = true) : Reads skipGap cs () cs := by
  have hcomment : cs.head? ≠ some '#' := fun hc => by simpa [isSolid] using h '#' hc
  have hnewline : ∀ c ∈ cs.head?, c ≠ '\n' ∧ c ≠ '\r' := fun c hc => by
    have hsolid := h c hc
    simp [isSolid] at hsolid
    exact ⟨hsolid.1.2, hsolid.2⟩
  refine Reads.get ((reads_noBlanks h).bind ((reads_noComment hcomment).bind ?_))
  exact (reads_noNewline hnewline).bind (.pure () cs)

theorem reads_endOfLine (r : List Char) : Reads endOfLine ('\n' :: r) () r := by
  have hblanks : Reads blanks ('\n' :: r) () ('\n' :: r) := Reads.blanks (w := []) (by simp) (by simp)
  refine hblanks.bind ((reads_noComment (by simp)).bind (.get ?_))
  exact (reads_newline r).bind rfl

theorem reads_key {w : List Char} (hk : IsBareKey k) (hw : ∀ c ∈ w, c = ' ')
    (hstop : ∀ d ∈ (w ++ c :: r).head?, isBare d = false) (hc : isSolid c = true) (hdot : c ≠ '.') :
    Reads key (k.toList ++ (w ++ c :: r)) [k] (c :: r) := by
  obtain ⟨d, ds, hd⟩ := List.exists_cons_of_ne_nil hk.ne_empty
  have hbare := hk.bare d (by simp [hd])
  have hquote : ∀ q : String, (∃ e, q.toList = [e] ∧ isBare e = false) →
      ¬ q.toList <+: k.toList ++ (w ++ c :: r) := by
    rintro q ⟨e, he, hq⟩ hpre
    rw [he, hd, List.cons_append, List.cons_prefix_cons] at hpre
    simp [← hpre.1, hq] at hbare
  have hsimple : Reads simpleKey (k.toList ++ (w ++ c :: r)) k (w ++ c :: r) := by
    refine (Reads.take_none (hquote "\"" ⟨'"', rfl, by decide⟩)).bind ?_
    refine (Reads.take_none (hquote "'" ⟨'\'', rfl, by decide⟩)).bind ?_
    refine (Reads.span hk.bare hstop).bind ?_
    rw [if_neg (by simpa using hk.ne_empty), String.ofList_toList]
    exact .pure _ _
  have hend : ¬ ".".toList <+: c :: r := by
    simpa using fun h => hdot h.symm
  have hblank : ∀ d ∈ (c :: r).head?, d ≠ ' ' ∧ d ≠ '\t' := by
    intro d hd
    obtain rfl : c = d := by simpa using hd
    simp [isSolid] at hc
    exact ⟨hc.1.1.1.1, hc.1.1.1.2⟩
  refine hsimple.bind (.get ?_)
  exact (Reads.blanks hw hblank).bind ((Reads.take_none hend).bind (.pure _ _))

theorem BasicString.head_ne (h : BasicString body t) : body.head? ≠ some '"' := by
  cases h with
  | nil => simp
  | plain hc _ =>
    obtain rfl | ⟨-, -, hq, -⟩ := hc
    · simp
    · simpa using hq
  | short _ _ => simp
  | long _ _ _ _ _ => simp

theorem reads_value (h : BasicString body t) (depth : Nat) (hr : r.head? ≠ some '"') :
    Reads (value (depth + 1)) ('"' :: body ++ '"' :: r) (.text (.ofList t)) r := by
  have hlong : ¬ "\"\"\"".toList <+: '"' :: body ++ '"' :: r := by
    have hhead := BasicString.head_ne h
    cases body with
    | nil =>
      cases r with
      | nil => simp
      | cons c r => simpa using fun h => hr (by simp [← h])
    | cons c body =>
      rintro ⟨t, ht⟩
      obtain ⟨rfl, -⟩ : '"' = c ∧ _ := by simpa using ht
      simp at hhead
  have hquoted : Reads quoted? ('"' :: body ++ '"' :: r) (some (.ofList t)) r := by
    refine (Reads.take_none hlong).bind ((Reads.take_none (by simp)).bind ?_)
    refine (Reads.take "\"" (body ++ '"' :: r)).bind (Reads.map (.get ?_))
    have hread := reads_basicString h (n := (body ++ '"' :: r).length + 1)
      (by simp only [List.length_append]; omega) [] r
    simpa using hread
  refine (Reads.take_none (by simp)).bind ((Reads.take_none (by simp)).bind ?_)
  exact hquoted.bind (.pure _ _)

theorem reads_statements (hcs : ∀ c ∈ cs.head?, isSolid c = true) (hne : cs ≠ [])
    (hstatement : Reads (statement p) cs q ('\n' :: r)) (hrest : Reads (statements n q) r ms t) :
    Reads (statements (n + 1) p) cs ms t := by
  refine (reads_noGap hcs).bind (.get ?_)
  rw [if_neg (by simpa using hne)]
  exact hstatement.bind ((reads_endOfLine r).bind hrest)

theorem reads_done (n : Nat) (p : Progress) : Reads (statements (n + 1) p) [] p.root [] := by
  have hgap : Reads skipGap [] () [] := reads_noGap (by simp)
  exact hgap.bind (.get rfl)

theorem reads_header (ht : IsBareKey s) (r : List Char) :
    Reads (statement ⟨[], []⟩) ('[' :: s.toList ++ ']' :: r) ⟨[(s, .table .header [])], [s]⟩ r := by
  obtain ⟨c, cs, hc⟩ := List.exists_cons_of_ne_nil ht.ne_empty
  have hbare := ht.bare c (by simp [hc])
  have helement : ¬ "[[".toList <+: '[' :: s.toList ++ ']' :: r := by
    rw [hc]
    rintro ⟨t, h⟩
    obtain ⟨rfl, -⟩ : '[' = c ∧ _ := by simpa using h
    exact absurd hbare (by decide)
  have hblanks : Reads blanks (s.toList ++ ']' :: r) () (s.toList ++ ']' :: r) :=
    reads_noBlanks (by simpa [hc] using isSolid_of_isBare hbare)
  refine (Reads.take_none helement).bind ((Reads.take "[" _).bind (hblanks.bind ?_))
  refine (reads_key (w := []) ht (by simp) (by simp; decide) (by decide) (by decide)).bind ?_
  refine (Reads.expect "]" r).bind ?_
  have hopen : Members.openTable [s] [] = some [(s, .table .header [])] := by
    simp [Members.openTable, Members.within, Table.set, Table.erase]
  rw [hopen]
  rfl

theorem reads_member (hk : IsBareKey k) (h : BasicString body v.toList) (r : List Char)
    (hr : r.head? ≠ some '"') :
    Reads (statement ⟨[(s, .table .header [])], [s]⟩)
      (k.toList ++ ' ' :: '=' :: ' ' :: ('"' :: body ++ '"' :: r))
      ⟨[(s, .table .header [(k, .text v)])], [s]⟩ r := by
  obtain ⟨c, cs, hc⟩ := List.exists_cons_of_ne_nil hk.ne_empty
  have hbracket : '[' ≠ c := by
    rintro rfl
    exact absurd (hk.bare '[' (by simp [hc])) (by decide)
  have hmember : Reads (member (value maxDepth))
      (k.toList ++ ' ' :: '=' :: ' ' :: ('"' :: body ++ '"' :: r)) ([k], .text v) r := by
    have hvalue := reads_value h 79 hr
    rw [String.ofList_toList] at hvalue
    refine (reads_key (w := [' ']) hk (by simp) (by simp; decide) (by decide) (by decide)).bind ?_
    have hblanks : Reads blanks (' ' :: ('"' :: body ++ '"' :: r)) () ('"' :: body ++ '"' :: r) :=
      Reads.blanks (w := [' ']) (by simp) (by simp)
    exact (Reads.expect "=" _).bind (hblanks.bind (hvalue.bind (.pure _ _)))
  refine (Reads.take_none (by simp [hc, hbracket])).bind ?_
  refine (Reads.take_none (by simp [hc, hbracket])).bind (hmember.bind ?_)
  have hroot : Members.within false (fun _ ms => ms.insert [k] (.text v) .header) [s] .header
      [(s, .table .header [])] = some [(s, .table .header [(k, .text v)])] := by
    simp [Members.within, Members.insert, Table.set, Table.erase]
  dsimp only
  rw [hroot]
  rfl

theorem reads_single (ht : IsBareKey s) (hk : IsBareKey k) (h : BasicString body v.toList)
    (hn : 3 ≤ n) : Reads (statements n ⟨[], []⟩) ('[' :: (s.toList ++ ']' :: '\n' ::
      (k.toList ++ ' ' :: '=' :: ' ' :: ('"' :: body ++ '"' :: ['\n']))))
      [(s, .table .header [(k, .text v)])] [] := by
  obtain ⟨n, rfl⟩ := Nat.exists_eq_add_of_le' hn
  obtain ⟨c, cs, hc⟩ := List.exists_cons_of_ne_nil hk.ne_empty
  have hsolid : isSolid c = true := isSolid_of_isBare (hk.bare c (by simp [hc]))
  refine reads_statements (by simp; decide) (by simp) (reads_header ht _) ?_
  exact reads_statements (by simpa [hc] using hsolid) (by simp [hc])
    (reads_member hk h ['\n'] (by simp)) (reads_done n _)

end Reader

theorem ofText?_bracket {text : String} {cs : List Char} (h : text.toList = '[' :: cs) :
    Members.ofText? text =
      ((Reader.statements (cs.length + 2) ⟨[], []⟩).run ('[' :: cs)).map (·.1) := by
  simp [Members.ofText?, h]

theorem Single.read {text table key value : String} (h : Single text table key value) :
    Members.ofText? text = some [(table, .table .header [(key, .text value)])] := by
  obtain ⟨ht, hk, body, hbody, htext⟩ := h
  have hchars : text.toList = '[' :: (table.toList ++ ']' :: '\n' ::
      (key.toList ++ ' ' :: '=' :: ' ' :: ('"' :: body ++ '"' :: ['\n']))) := by
    simp [htext]
  rw [ofText?_bracket hchars, Reader.reads_single ht hk hbody (by simp; omega)]
  rfl

end Provision.Toml
