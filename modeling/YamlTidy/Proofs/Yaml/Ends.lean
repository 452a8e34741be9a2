import YamlTidy.Yaml.Fault

/-!
# How a computation can end

`EndsIn P x` says that `x` has a result or fails with an error in `P`.  `Keeps I P act` says the
same of a computation with a state, started in a state in `I`, and that the state stays in `I`.
Both pass through `do` blocks (`EndsIn.bind`, `Keeps.bind`), so that what a function can end in is
found from what the functions it calls can end in.

The faults that reading can end in are `Fault.OfReading`, the ways in which writing can break off
`Abort.OfWriting`.  The modules below this one go through the functions of either side.
-/

namespace YamlTidy

section

variable {ε α β σ : Type}

/-- Whether a computation fails with an error in `P` only. -/
def EndsIn (P : ε → Prop) (x : Except ε α) : Prop :=
  ∀ e, x = .error e → P e

/-- Whether a computation started in `I` fails with an error in `P` only and stays in `I`. -/
def Keeps (I : σ → Prop) (P : ε → Prop) (act : StateT σ (Except ε) α) : Prop :=
  ∀ s, I s → EndsIn P (act s) ∧ ∀ a t, act s = .ok (a, t) → I t

namespace EndsIn

variable {P : ε → Prop}

@[simp, grind .]
theorem ok (a : α) : EndsIn P (.ok a) :=
  fun _ h => nomatch h

@[simp, grind .]
theorem pure (a : α) : EndsIn P (Pure.pure a) :=
  ok a

@[simp, grind =]
theorem error_iff {e : ε} : EndsIn P (.error e : Except ε α) ↔ P e :=
  ⟨fun h => h e rfl, fun h _ he => Except.error.inj he ▸ h⟩

@[simp, grind =]
theorem throw_iff {e : ε} : EndsIn P (throw e : Except ε α) ↔ P e :=
  error_iff

@[grind ←]
theorem bind {x : Except ε α} {f : α → Except ε β} (hx : EndsIn P x)
    (hf : ∀ a, EndsIn P (f a)) :
    EndsIn P (x >>= f) := by
  intro e h
  cases x with
  | error e' =>
      obtain rfl : e' = e := Except.error.inj h
      exact hx e' rfl
  | ok a => exact hf a e h

@[grind ←]
theorem map {x : Except ε α} (f : α → β) (hx : EndsIn P x) : EndsIn P (x.map f) := by
  cases x with
  | error e => exact error_iff.mpr (error_iff.mp hx)
  | ok a => exact ok _

end EndsIn

/-- Whether two computations break off alike: if either fails, the other does with the same
error. -/
def EndsAlike (x : Except ε α) (y : Except ε β) : Prop :=
  ∀ e, x = .error e ↔ y = .error e

namespace EndsAlike

theorem ok (a : α) (b : β) : EndsAlike (.ok a : Except ε α) (.ok b : Except ε β) :=
  fun _ => ⟨fun h => (nomatch h), fun h => (nomatch h)⟩

theorem error (e : ε) : EndsAlike (.error e : Except ε α) (.error e : Except ε β) :=
  fun e' => by simp

theorem refl (x : Except ε α) : EndsAlike x x :=
  fun _ => Iff.rfl

theorem bind {γ δ : Type} {x : Except ε α} {y : Except ε β} {f : α → Except ε γ}
    {g : β → Except ε δ} (hxy : EndsAlike x y) (hfg : ∀ a b, EndsAlike (f a) (g b)) :
    EndsAlike (x >>= f) (y >>= g) := by
  cases x with
  | error e =>
      obtain rfl : y = .error e := (hxy e).mp rfl
      exact error e
  | ok a =>
      cases y with
      | error e => exact nomatch (hxy e).mpr rfl
      | ok b => exact hfg a b

theorem map {γ δ : Type} {x : Except ε α} {y : Except ε β} (f : α → γ) (g : β → δ)
    (hxy : EndsAlike x y) : EndsAlike (x.map f) (y.map g) :=
  bind hxy fun a b => ok (f a) (g b)

end EndsAlike

namespace Keeps

variable {I : σ → Prop} {P : ε → Prop}

@[simp, grind .]
theorem pure (a : α) : Keeps I P (Pure.pure a : StateT σ (Except ε) α) := by
  intro s hs
  refine ⟨EndsIn.ok _, fun b t h => ?_⟩
  cases h
  exact hs

@[grind ←]
theorem bind {act : StateT σ (Except ε) α} {f : α → StateT σ (Except ε) β}
    (hact : Keeps I P act) (hf : ∀ a, Keeps I P (f a)) : Keeps I P (act >>= f) := by
  intro s hs
  obtain ⟨herror, hok⟩ := hact s hs
  have hbind : (act >>= f) s = act s >>= fun r => f r.1 r.2 := rfl
  rw [hbind]
  cases hres : act s with
  | error e => exact ⟨EndsIn.error_iff.mpr (herror e hres), fun _ _ h => nomatch h⟩
  | ok r => exact hf r.1 r.2 (hok r.1 r.2 hres)

@[grind ←]
theorem map {act : StateT σ (Except ε) α} (f : α → β) (hact : Keeps I P act) :
    Keeps I P (f <$> act) :=
  bind hact fun a => pure (f a)

/-- A computation that changes no state and cannot fail. -/
@[grind .]
theorem get : Keeps I P (MonadState.get : StateT σ (Except ε) σ) := by
  intro s hs
  refine ⟨EndsIn.ok _, fun b t h => ?_⟩
  cases h
  exact hs

@[grind ←]
theorem modify {f : σ → σ} (hf : ∀ s, I s → I (f s)) :
    Keeps I P (modify f : StateT σ (Except ε) PUnit) := by
  intro s hs
  refine ⟨EndsIn.ok _, fun b t h => ?_⟩
  cases h
  exact hf s hs

end Keeps

end

namespace Yaml

/-- The faults that reading a text can end in: rejections, and breaking off for one of a few
reasons, the last of which stands for a recursion error. -/
@[grind]
inductive Fault.OfReading : Fault → Prop
  | rejected (cause : Cause) (mark : Option Mark) : OfReading (.rejected cause mark)
  | emptyNumber : OfReading (.aborted .emptyNumber)
  | placeTooHigh : OfReading (.aborted .placeTooHigh)
  | commentsMeet (shown : List Char) : OfReading (.aborted (.commentsMeet shown))
  | commentLost : OfReading (.aborted .commentLost)
  | codeTooLarge : OfReading (.aborted .codeTooLarge)
  | dateOutOfRange : OfReading (.aborted .dateOutOfRange)
  | orderedMapKey : OfReading (.aborted .orderedMapKey)
  | orderedMapScalar : OfReading (.aborted .orderedMapScalar)
  | layoutTooDeep : OfReading (.aborted .layoutTooDeep)

@[simp, grind .]
theorem Fault.OfReading.at (cause : Cause) (mark : Mark) : Fault.OfReading (.at cause mark) :=
  .rejected _ _

/-- The ways in which writing a document can break off.  The last one stands for a recursion
error. -/
@[grind]
inductive Abort.OfWriting : Abort → Prop
  | emptyNumber : OfWriting .emptyNumber
  | integerTooLong : OfWriting .integerTooLong
  | pointCut : OfWriting .pointCut
  | headerInFront : OfWriting .headerInFront
  | commentsCollide : OfWriting .commentsCollide
  | setOfCollections : OfWriting .setOfCollections
  | layoutTooDeep : OfWriting .layoutTooDeep

end Yaml
end YamlTidy
