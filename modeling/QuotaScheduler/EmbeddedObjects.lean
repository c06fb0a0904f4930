/- The JSON object in a failure text (retry_classify.go). -/

import QuotaScheduler.RetryFrames

namespace QuotaScheduler.EmbeddedObjects

open Lib.ByteStrings Lib.JsonText RetryFrames List

def isObject : Container → Bool
  | .object _ _ => true
  | .array _ => false

def objects (st : List Container) : Nat := st.countP isObject

/-- The outermost container is an object. -/
def rooted (st : List Container) : Bool := st.getLast?.any isObject

def quoted : Mode → Bool
  | .inString _ | .inEscape _ | .inHex _ _ => true
  | _ => false

def escaping : Mode → Bool
  | .inEscape _ => true
  | _ => false

/-- A byte that neither opens nor closes a string or an object. -/
def plain (b : UInt8) : Bool := b != 34 && b != 123 && b != 125

/-- A mode inside a container; the letters a literal still needs are plain. -/
def inside : Mode → Bool
  | .endTop _ => false
  | .inLiteral rest _ => rest.all plain
  | _ => true

/-- What `objectEnd` finds from where the scanner stands. -/
def endFrom (s : Scanner) (t : Bytes) : Option Nat :=
  objectEnd t (objects s.stack) (quoted s.mode) (escaping s.mode)

/-- The scanner is outside the strings of an object, `n` objects deep. -/
structure Inside (n : Nat) (s : Scanner) : Prop where
  depth : objects s.stack = n
  root : rooted s.stack = true
  unquoted : quoted s.mode = false
  mode : inside s.mode = true

variable {s s' : Scanner} {st : List Container} {b : UInt8} {v : Json} {n : Nat}

theorem rooted_cons {c : Container} (h : rooted st = true) : rooted (c :: st) = true := by
  cases st with
  | nil => cases h
  | cons d st => exact h

theorem rooted_tail {c d : Container} (h : rooted (c :: d :: st) = true) :
    rooted (d :: st) = true := h

theorem complete_inside (hroot : rooted st = true) (h : complete v st = some s') :
    Inside (objects st) s' := by
  have hcongr : ∀ {c d : Container} {st}, rooted (c :: st) = true → isObject d = isObject c →
      rooted (d :: st) = true := by
    rintro c d (_ | ⟨e, st⟩) hc hd
    · exact hd.trans hc
    · exact hc
  unfold complete at h
  repeat' split at h
  all_goals cases h
  · cases hroot
  all_goals exact ⟨rfl, hcongr hroot rfl, rfl, rfl⟩

theorem close_array {items : List Json} (hroot : rooted (.array items :: st) = true)
    (h : complete v st = some s') : Inside (objects (.array items :: st)) s' := by
  cases st with
  | nil => cases hroot
  | cons c st =>
    show Inside (objects (c :: st)) s'
    exact complete_inside (rooted_tail hroot) h

/-- What a byte does outside the strings of an object, `n` objects deep. -/
inductive Moves (n : Nat) : UInt8 → Scanner → Prop
  | stays (b : UInt8) (s : Scanner) (hb : plain b = true) (h : Inside n s) : Moves n b s
  | quotes (st : List Container) (depth : objects st = n) (root : rooted st = true) :
      Moves n 34 ⟨st, .inString []⟩
  | opens (s : Scanner) (h : Inside (n + 1) s) : Moves n 123 s
  | closes (s : Scanner) (hn : n ≠ 1) (h : Inside (n - 1) s) : Moves n 125 s
  | ends (s : Scanner) (v : Json) (hn : n = 1) (h : s.mode = .endTop v) : Moves n 125 s

theorem objects_object {members : List (Bytes × Json)} {key : Option Bytes} :
    objects (.object members key :: st) = objects st + 1 := countP_cons_of_pos rfl

theorem close_object {members : List (Bytes × Json)} {key : Option Bytes}
    (hroot : rooted (.object members key :: st) = true) (h : complete v st = some s') :
    Moves (objects (.object members key :: st)) 125 s' := by
  rw [objects_object]
  cases st with
  | nil =>
    cases h
    exact .ends _ v rfl rfl
  | cons c st =>
    have hpos : 0 < objects (c :: st) := by
      obtain ⟨d, hd, hobject⟩ := (Option.any_eq_true _ _).mp hroot
      exact countP_pos_iff.mpr ⟨d, mem_of_getLast? hd, hobject⟩
    exact .closes _ (by omega) (complete_inside (rooted_tail hroot) h)

theorem plain_of {p : UInt8 → Bool} (hb : p b = true) (hp : (p 34 || p 123 || p 125) = false) :
    plain b = true := by
  have hne : ∀ c, p c = false → b ≠ c := fun c hc h => by simp [← h, hb] at hc
  simp only [Bool.or_eq_false_iff] at hp
  simp [plain, hne 34 hp.1.1, hne 123 hp.1.2, hne 125 hp.2]

theorem moves_stay {mode : Mode} (hroot : rooted st = true) (hb : plain b = true)
    (hq : quoted mode = false) (hin : inside mode = true)
    (h : some (⟨st, mode⟩ : Scanner) = some s') : Moves (objects st) b s' := by
  cases h
  exact .stays b _ hb ⟨rfl, hroot, hq, hin⟩

theorem afterValue_moves (hs : Inside n s) (h : afterValue s b = some s') : Moves n b s' := by
  obtain ⟨rfl, hroot, hq, hin⟩ := hs
  unfold afterValue at h
  repeat' split at h
  all_goals first
    | cases h; done
    | exact moves_stay hroot (plain_of ‹_› rfl) hq hin h
    | exact moves_stay hroot (‹b = _› ▸ rfl) rfl rfl h
    | rename_i hst _ hb
      subst hb
      rw [hst] at hroot ⊢
      first
        | exact .stays _ _ rfl (close_array hroot h)
        | exact close_object hroot h

theorem endNumber_moves {raw : Bytes} (hroot : rooted st = true)
    (h : endNumber raw st b = some s') : Moves (objects st) b s' := by
  obtain ⟨s₁, hcomplete, hafter⟩ := Option.bind_eq_some_iff.mp h
  exact afterValue_moves (complete_inside hroot hcomplete) hafter

theorem beginValue_moves {mayClose : Bool} (hroot : rooted st = true)
    (h : beginValue mayClose st b = some s') : Moves (objects st) b s' := by
  unfold beginValue at h
  obtain ⟨hspace, hv⟩ | ⟨-, h⟩ := ite_eq_iff.mp h
  · exact moves_stay hroot (plain_of hspace rfl) rfl rfl hv
  obtain ⟨⟨rfl, -⟩, hv⟩ | ⟨-, h⟩ := ite_eq_iff.mp h
  · obtain _ | ⟨_ | _, _⟩ := st
    · cases hv
    · exact .stays _ _ rfl (close_array hroot hv)
    · cases hv
  obtain ⟨rfl, hv⟩ | ⟨-, h⟩ := ite_eq_iff.mp h
  · obtain ⟨-, ⟨⟩⟩ := Option.ite_none_right_eq_some.mp hv
    exact .opens _ ⟨objects_object, rooted_cons hroot, rfl, rfl⟩
  obtain ⟨rfl, hv⟩ | ⟨-, h⟩ := ite_eq_iff.mp h
  · obtain ⟨-, ⟨⟩⟩ := Option.ite_none_right_eq_some.mp hv
    exact .stays _ _ rfl ⟨rfl, rooted_cons hroot, rfl, rfl⟩
  obtain ⟨rfl, hv⟩ | ⟨-, h⟩ := ite_eq_iff.mp h
  · cases hv
    exact .quotes st rfl hroot
  -- What begins a number or a literal.
  iterate 2
    obtain ⟨rfl, hv⟩ | ⟨-, h⟩ := ite_eq_iff.mp h
    · exact moves_stay hroot rfl rfl rfl hv
  obtain ⟨hdigit, hv⟩ | ⟨-, h⟩ := ite_eq_iff.mp h
  · exact moves_stay hroot (plain_of hdigit rfl) rfl rfl hv
  iterate 3
    obtain ⟨rfl, hv⟩ | ⟨-, h⟩ := ite_eq_iff.mp h
    · exact moves_stay hroot rfl rfl rfl hv
  · cases h

theorem beginKey_moves {mayClose : Bool} (hroot : rooted st = true)
    (h : beginKey mayClose st b = some s') : Moves (objects st) b s' := by
  unfold beginKey at h
  obtain ⟨hspace, hv⟩ | ⟨-, h⟩ := ite_eq_iff.mp h
  · exact moves_stay hroot (plain_of hspace rfl) rfl rfl hv
  obtain ⟨⟨rfl, -⟩, hv⟩ | ⟨-, h⟩ := ite_eq_iff.mp h
  · obtain _ | ⟨_ | _, _⟩ := st
    · cases hv
    · cases hv
    · exact close_object hroot hv
  obtain ⟨rfl, hv⟩ | ⟨-, h⟩ := ite_eq_iff.mp h
  · cases hv
    exact .quotes st rfl hroot
  · cases h

theorem scan_moves (hs : Inside n s) (h : scan s b = some s') : Moves n b s' := by
  obtain ⟨st, mode⟩ := s
  obtain ⟨rfl, hroot, hq, hin⟩ := hs
  cases mode with
  | inString | inEscape | inHex => cases hq
  | endTop => cases hin
  | endKey | endValue => exact afterValue_moves ⟨rfl, hroot, rfl, rfl⟩ h
  | beginValue => exact beginValue_moves hroot h
  | beginKey => exact beginKey_moves hroot h
  | inLiteral rest v =>
    cases rest with
    | nil => cases h
    | cons c rest =>
      obtain ⟨hc, hrest⟩ := Bool.and_eq_true_iff.mp hin
      obtain ⟨-, h⟩ | ⟨hb, h⟩ := ite_eq_iff.mp h
      · cases h
      obtain rfl := not_not.mp hb
      obtain ⟨-, h⟩ | ⟨-, h⟩ := ite_eq_iff.mp h
      · exact .stays b s' hc (complete_inside hroot h)
      · cases h
        exact .stays b _ hc ⟨rfl, hroot, rfl, hrest⟩
  | _ =>
    -- Every byte that leads on in a number is plain.
    simp only [scan] at h
    repeat' split at h
    all_goals first
      | cases h; done
      | exact endNumber_moves hroot h
      | exact moves_stay hroot (plain_of ‹_› rfl) rfl rfl h
      | exact moves_stay hroot (by grind [plain]) rfl rfl h

/-- The byte ends the object, or leads on inside it. -/
def Steps (s s' : Scanner) (b : UInt8) : Prop :=
  (b = 125 ∧ (∃ v, s'.mode = .endTop v) ∧ ∀ t, endFrom s (b :: t) = some 1) ∨
    (rooted s'.stack = true ∧ inside s'.mode = true ∧
      ∀ t, endFrom s (b :: t) = (endFrom s' t).map (· + 1))

theorem Inside.endFrom_eq (h : Inside n s) (t : Bytes) :
    endFrom s t = objectEnd t n false false := by
  have hq := h.unquoted
  have he : escaping s.mode = false := by
    cases hmode : s.mode <;> rw [hmode] at hq <;> first | rfl | cases hq
  rw [endFrom, h.depth, hq, he]

theorem steps_quoted (hroot : rooted s.stack = true) (hs : quoted s.mode = true)
    (h : scan s b = some s') : Steps s s' b := by
  obtain ⟨st, mode⟩ := s
  have hstay : ∀ {mode' : Mode}, quoted mode' = true → (escaping mode || b != 34) = true →
      escaping mode' = (!escaping mode && decide (b = 92)) →
      some (⟨st, mode'⟩ : Scanner) = some s' → Steps ⟨st, mode⟩ s' b := by
    rintro mode' hq' hopen hnext ⟨⟩
    refine .inr ⟨hroot, ?_, fun t => ?_⟩
    · cases mode' <;> first | rfl | cases hq'
    · cases he : escaping mode <;> by_cases hb : b = 92 <;> simp_all [endFrom, objectEnd]
  cases mode with
  | inString raw =>
    simp only [scan] at h
    repeat' split at h
    · next hb =>
      have hnext := complete_inside hroot h
      refine .inr ⟨hnext.root, hnext.mode, fun t => ?_⟩
      rw [hnext.endFrom_eq, hb]
      rfl
    · next hb => exact hstay rfl (hb ▸ rfl) (by simp [escaping, hb]) h
    · cases h
    · next hquote hback _ => exact hstay rfl (bne_iff_ne.mpr hquote) (by simp [escaping, hback]) h
  | inEscape raw =>
    simp only [scan] at h
    repeat' split at h
    · exact hstay rfl rfl rfl h
    · exact hstay rfl rfl rfl h
    · cases h
  | inHex raw left =>
    simp only [scan] at h
    have hquote : b ≠ 34 := by
      rintro rfl
      cases h
    have hback : b ≠ 92 := by
      rintro rfl
      cases h
    repeat' split at h
    · cases h
    all_goals exact hstay rfl (bne_iff_ne.mpr hquote) (by simp [escaping, hback]) h
  | _ => cases hs

/-- The two scanners move together inside an object. -/
theorem steps_scan (hroot : rooted s.stack = true) (hin : inside s.mode = true)
    (h : scan s b = some s') : Steps s s' b := by
  cases hs : quoted s.mode with
  | true => exact steps_quoted hroot hs h
  | false =>
    have hhere : Inside _ s := ⟨rfl, hroot, hs, hin⟩
    cases scan_moves hhere h with
    | stays b s hb hnext =>
      simp only [plain, Bool.and_eq_true, bne_iff_ne] at hb
      refine .inr ⟨hnext.root, hnext.mode, fun t => ?_⟩
      simp [hhere.endFrom_eq, hnext.endFrom_eq, objectEnd, hb]
    | quotes st depth root =>
      exact .inr ⟨root, rfl, fun t => by rw [hhere.endFrom_eq, ← depth]; rfl⟩
    | opens s hnext =>
      refine .inr ⟨hnext.root, hnext.mode, fun t => ?_⟩
      simp [hhere.endFrom_eq, hnext.endFrom_eq, objectEnd]
    | closes s hmore hnext =>
      refine .inr ⟨hnext.root, hnext.mode, fun t => ?_⟩
      simp [hhere.endFrom_eq, hnext.endFrom_eq, objectEnd, hmore]
    | ends s v hone htop =>
      exact .inl ⟨rfl, ⟨v, htop⟩, fun t => by simp [hhere.endFrom_eq, objectEnd, hone]⟩

theorem foldlM_endTop {t : Bytes} (hm : s.mode = .endTop v) (h : t.foldlM scan s = some s') :
    ∀ b ∈ t, isJsonSpace b = true := by
  induction t with
  | nil => exact fun b hb => absurd hb not_mem_nil
  | cons b t ih =>
    rw [foldlM_cons] at h
    obtain ⟨s₁, hscan, hrun⟩ := Option.bind_eq_some_iff.mp h
    simp only [scan, hm, afterValue] at hscan
    split at hscan
    · next hb =>
      cases hscan
      exact forall_mem_cons.mpr ⟨hb, ih hrun⟩
    · cases hscan

/-- Both scanners find the brace that ends the object; only spaces follow it. -/
theorem run_of_inside {t : Bytes} (hroot : rooted s.stack = true) (hin : inside s.mode = true)
    (h : t.foldlM scan s = some s') (hend : s'.mode = .endTop v) :
    ∃ u r, t = u ++ 125 :: r ∧ (∀ b ∈ r, isJsonSpace b = true) ∧
      ∀ rest, endFrom s (u ++ 125 :: rest) = some (u.length + 1) := by
  induction t generalizing s with
  | nil =>
    cases h
    rw [hend] at hin
    cases hin
  | cons b t ih =>
    rw [foldlM_cons] at h
    obtain ⟨s₁, hscan, hrun⟩ := Option.bind_eq_some_iff.mp h
    rcases steps_scan hroot hin hscan with ⟨rfl, ⟨v', htop⟩, hone⟩ | ⟨hroot₁, hin₁, hnext⟩
    · exact ⟨[], t, rfl, foldlM_endTop htop hrun, hone⟩
    · obtain ⟨u, r, rfl, hspaces, hends⟩ := ih hroot₁ hin₁ hrun
      refine ⟨b :: u, r, rfl, hspaces, fun rest => ?_⟩
      rw [cons_append, hnext, hends]
      rfl

theorem run_of_valid {t : Bytes} (h : valid (123 :: t) = true) :
    ∃ u r, t ++ [32] = u ++ 125 :: r ∧ (∀ b ∈ r, isJsonSpace b = true) ∧
      ∀ rest, objectEnd (123 :: (u ++ 125 :: rest)) 0 false false = some (u.length + 2) := by
  obtain ⟨v, hparse⟩ := Option.isSome_iff_exists.mp h
  obtain ⟨s', hrun, hmode⟩ := Option.bind_eq_some_iff.mp hparse
  have hend : s'.mode = .endTop v := by
    split at hmode
    · next hm => rw [hm, Option.some.inj hmode]
    · cases hmode
  have hopen : scan ⟨[], .beginValue false⟩ 123 = some ⟨[.object [] none], .beginKey true⟩ := rfl
  rw [cons_append, foldlM_cons, hopen] at hrun
  obtain ⟨u, r, hsplit, hspaces, hends⟩ := run_of_inside rfl rfl hrun hend
  exact ⟨u, r, hsplit, hspaces, fun rest => congrArg (Option.map (· + 1)) (hends rest)⟩

/-- A valid text of an object, without spaces around it. -/
def ObjectText (text : Bytes) : Prop :=
  ∃ inner, text = 123 :: (inner ++ [125]) ∧ valid text = true

theorem objectEnd_objectText {inner : Bytes} (h : valid (123 :: (inner ++ [125])) = true)
    (rest : Bytes) :
    objectEnd (123 :: (inner ++ 125 :: rest)) 0 false false = some (inner.length + 2) := by
  obtain ⟨u, r, hsplit, hspaces, hends⟩ := run_of_valid h
  rw [append_assoc, singleton_append] at hsplit
  obtain rfl : inner = u := by
    rcases append_eq_append_iff.mp hsplit with ⟨q, rfl, hq⟩ | ⟨q, rfl, hq⟩
    · cases q with
      | nil => exact (append_nil _).symm
      | cons x q => cases q <;> simp at hq
    · cases q with
      | nil => exact append_nil _
      | cons x q =>
        have hbrace := hspaces 125 (by simp [(cons.inj hq).2])
        cases hbrace
  exact hends rest

/-- A text that goes on behind the object is valid only with spaces there. -/
theorem spaces_of_valid {inner after : Bytes} (h : valid (123 :: (inner ++ [125])) = true)
    (hvalid : valid (123 :: (inner ++ 125 :: after)) = true) :
    ∀ b ∈ after, isJsonSpace b = true := by
  obtain ⟨u, r, hsplit, hspaces, hends⟩ := run_of_valid hvalid
  have hobject := objectEnd_objectText h (after ++ [32])
  rw [append_assoc, cons_append] at hsplit
  rw [hsplit, hends, Option.some.injEq] at hobject
  obtain ⟨-, htail⟩ := append_inj hsplit (by omega)
  exact fun b hb => hspaces b ((cons.inj htail).2 ▸ mem_append_left _ hb)

/-- The first object of a text is found whatever stands behind it, and in front of it without an
opening brace. -/
theorem embedded_object_is_extracted {text before after : Bytes} (h : ObjectText text)
    (hbefore : 123 ∉ before) : extractJSONErrorObject (before ++ text ++ after) = text := by
  obtain ⟨inner, rfl, hvalid⟩ := h
  obtain ⟨p, r, hp, htrim⟩ := @trimSpace_append 123 125 (by decide) (by decide) before inner after
  have hfresh : 123 ∉ p := fun hin => hbefore (hp hin)
  have hstuck := @trimSpace_stuck (before ++ 123 :: (inner ++ 125 :: after))
  rw [htrim] at hstuck
  have htext : before ++ 123 :: (inner ++ [125]) ++ after =
      before ++ 123 :: (inner ++ 125 :: after) := by
    simp
  simp only [extractJSONErrorObject, htext, htrim]
  split
  · next hwhole =>
    -- the whole text is the object: nothing stands in front of it, and no space behind it
    obtain ⟨hbrace, hvalid'⟩ := Bool.and_eq_true_iff.mp hwhole
    obtain rfl : p = [] := by
      cases p with
      | nil => rfl
      | cons x p =>
        have hx : 123 = x := by simpa [ascii, isPrefixOf] using hbrace
        exact absurd (hx ▸ mem_cons_self) hfresh
    have hspaces := spaces_of_valid hvalid hvalid'
    obtain rfl : r = [] := by
      rcases eq_nil_or_concat r with rfl | ⟨l, x, rfl⟩
      · rfl
      · have hx := hspaces x (by simp)
        have hcode : [x] ∈ spaces.map reverse := by
          simp only [isJsonSpace, Bool.or_eq_true, beq_iff_eq] at hx
          rcases hx with ((rfl | rfl) | rfl) | rfl <;> decide
        simpa using hstuck [x] hcode
    rfl
  · rw [show ascii "\x7b" = [123] from rfl, index_singleton hfresh]
    dsimp only
    rw [drop_left, objectEnd_objectText hvalid]
    have htake : (123 :: (inner ++ 125 :: r)).take (inner.length + 2) =
        123 :: (inner ++ [125]) := by
      rw [← singleton_append (l := r), ← append_assoc, ← cons_append]
      exact take_left' (by simp)
    dsimp only
    rw [htake, if_pos hvalid]

/-- An object with a brace and a quote in a string, in the middle of a text. -/
theorem embedded_object_of_text :
    extractJSONErrorObject (ascii "error: " ++ ascii "\x7b\"a\":\"\x7d\\\"\"\x7d" ++
      ascii " (\x7d)") = ascii "\x7b\"a\":\"\x7d\\\"\"\x7d" :=
  embedded_object_is_extracted ⟨ascii "\"a\":\"\x7d\\\"\"", by decide, by decide⟩ (by decide)

end QuotaScheduler.EmbeddedObjects
