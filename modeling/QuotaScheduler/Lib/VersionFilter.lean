/- A copy that takes over newer messages only, which arrive in any order. -/

import Mathlib.Order.Nat

namespace QuotaScheduler.Lib.VersionFilter

variable {α : Type}

section

variable (version : α → Nat) (safe : α → Prop)

/-- The copy is safe and newer than every unsafe message, or a safe one newer than both will arrive.
-/
def Shielded (copy : α) (sure possible : α → Prop) : Prop :=
  (safe copy ∧ ∀ m, possible m → ¬safe m → version m ≤ version copy) ∨
    ∃ p, sure p ∧ safe p ∧ version copy < version p ∧
      ∀ m, possible m → ¬safe m → version m < version p

def Delivered (copy m copy' : α) : Prop :=
  (copy' = copy ∧ version m ≤ version copy) ∨
    (version copy < version m ∧ version copy' = version m ∧ (safe m → safe copy'))

end

variable {version : α → Nat} {safe : α → Prop} {copy copy' : α}
  {sure sure' possible possible' : α → Prop}

theorem Shielded.safe_of_settled (h : Shielded version safe copy sure possible)
    (hsettled : ∀ m, ¬sure m) : safe copy := by
  rcases h with ⟨hsafe, -⟩ | ⟨p, hp, -⟩
  · exact hsafe
  · exact absurd hp (hsettled p)

theorem Shielded.of_messages (h : Shielded version safe copy sure possible)
    (hsure : ∀ m, sure m → sure' m) (hpossible : ∀ m, possible' m → ¬safe m → possible m) :
    Shielded version safe copy sure' possible' := by
  rcases h with ⟨hsafe, hle⟩ | ⟨p, hp, hsafe, hlt, hle⟩
  · exact .inl ⟨hsafe, fun m hm hu => hle m (hpossible m hm hu) hu⟩
  · exact .inr ⟨p, hsure p hp, hsafe, hlt, fun m hm hu => hle m (hpossible m hm hu) hu⟩

theorem Shielded.replace (h : Shielded version safe copy sure possible) (hsafe : safe copy')
    (hversion : version copy ≤ version copy') : Shielded version safe copy' sure possible := by
  rcases h with ⟨-, hle⟩ | ⟨p, hp, hsafep, hlt, hle⟩
  · exact .inl ⟨hsafe, fun m hm hu => (hle m hm hu).trans hversion⟩
  · rcases Nat.lt_or_ge (version copy') (version p) with hnew | hold
    · exact .inr ⟨p, hp, hsafep, hnew, hle⟩
    · exact .inl ⟨hsafe, fun m hm hu => ((hle m hm hu).le).trans hold⟩

theorem Shielded.deliver {m : α} (h : Shielded version safe copy sure possible)
    (hm : possible m) (hsure : ∀ x, sure x → x = m ∨ sure' x)
    (hpossible : ∀ x, possible' x → possible x) (hcopy : Delivered version safe copy m copy') :
    Shielded version safe copy' sure' possible' := by
  rcases h with ⟨hsafe, hle⟩ | ⟨p, hp, hsafe, hlt, hle⟩
  · rcases hcopy with ⟨rfl, -⟩ | ⟨hnew, hversion, hkeeps⟩
    · exact .inl ⟨hsafe, fun x hx hu => hle x (hpossible x hx) hu⟩
    · -- only a safe message is newer than the copy
      have hsafem : safe m := by
        by_contra hrisk
        exact absurd (hle m hm hrisk) (Nat.not_le.mpr hnew)
      refine .inl ⟨hkeeps hsafem, fun x hx hu => ?_⟩
      rw [hversion]
      exact (hle x (hpossible x hx) hu).trans hnew.le
  · rcases hcopy with ⟨rfl, hold⟩ | ⟨hnew, hversion, hkeeps⟩
    · have hne : p ≠ m := by
        rintro rfl
        exact absurd hold (Nat.not_le.mpr hlt)
      exact .inr ⟨p, (hsure p hp).resolve_left hne, hsafe, hlt,
        fun x hx hu => hle x (hpossible x hx) hu⟩
    · rcases Nat.lt_or_ge (version m) (version p) with hlater | hdone
      · have hne : p ≠ m := by
          rintro rfl
          exact absurd hlater (Nat.lt_irrefl _)
        refine .inr ⟨p, (hsure p hp).resolve_left hne, hsafe, ?_,
          fun x hx hu => hle x (hpossible x hx) hu⟩
        rwa [hversion]
      · have hsafem : safe m := by
          by_contra hrisk
          exact absurd (hle m hm hrisk) (Nat.not_lt.mpr hdone)
        refine .inl ⟨hkeeps hsafem, fun x hx hu => ?_⟩
        rw [hversion]
        exact ((hle x (hpossible x hx) hu).le).trans hdone

theorem Shielded.of_send {p : α} (hp : sure p) (hsafe : safe p)
    (hcopy : version copy < version p ∨ safe copy)
    (hpossible : ∀ m, possible m → ¬safe m → version m < version p) :
    Shielded version safe copy sure possible := by
  rcases Nat.lt_or_ge (version copy) (version p) with hlt | hge
  · exact .inr ⟨p, hp, hsafe, hlt, hpossible⟩
  · refine .inl ⟨hcopy.resolve_left (Nat.not_lt.mpr hge), fun m hm hu => ?_⟩
    exact ((hpossible m hm hu).le).trans hge

end QuotaScheduler.Lib.VersionFilter
