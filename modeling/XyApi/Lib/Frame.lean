import XyApi.Lib.Table
import XyApi.Lib.Transaction

/-!
Frames: what a computation may do to the state, as a relation that composes. A
computation is within a frame when each of its successful runs is. The rules
follow the ways computations are put together, so a frame is shown for the
primitive writes and then carried through every function built from them.
-/

namespace XyApi.Lib

/-- A relation between states that holds of no change and composes. -/
structure Frame (σ : Type) where
  rel : σ → σ → Prop
  refl : ∀ s, rel s s
  trans : ∀ {s t u}, rel s t → rel t u → rel s u

namespace Frame

variable {σ β γ : Type}

def keeps (view : σ → β) : Frame σ where
  rel s s' := view s' = view s
  refl _ := rfl
  trans h₁ h₂ := h₂.trans h₁

def preserves (P : σ → Prop) : Frame σ where
  rel s s' := P s → P s'
  refl _ h := h
  trans h₁ h₂ h := h₂ (h₁ h)

end Frame

namespace Tx

variable {σ ε α β : Type} {F G : Frame σ}

/-- Every successful run of the computation stays within the frame. -/
structure Within (F : Frame σ) (x : Tx σ ε α) : Prop where
  of_ok : ∀ {s a s'}, x s = .ok (a, s') → F.rel s s'

namespace Within

theorem pure : Within F (pure a : Tx σ ε α) where
  of_ok h := by
    obtain ⟨-, rfl⟩ := pure_ok_iff.mp h
    exact F.refl _

theorem read : Within F (Tx.read f : Tx σ ε α) where
  of_ok h := by
    obtain ⟨-, rfl⟩ := read_ok_iff.mp h
    exact F.refl _

theorem fail : Within F (Tx.fail e : Tx σ ε α) where
  of_ok h := (fail_ok_iff.mp h).elim

theorem failIf {c : Prop} [Decidable c] : Within F (Tx.failIf c e) where
  of_ok h := by
    obtain ⟨-, rfl⟩ := failIf_ok_iff.mp h
    exact F.refl _

theorem require : Within F (Tx.require o e) where
  of_ok h := by
    obtain ⟨-, rfl⟩ := require_ok_iff.mp h
    exact F.refl _

theorem write (h : ∀ s, F.rel s (f s)) : Within F (Tx.write f : Tx σ ε Unit) where
  of_ok {s _ _} hRun := by
    obtain rfl := write_ok_iff.mp hRun
    exact h s

theorem bind (hx : Within F x) (hf : ∀ a, Within F (f a)) :
    Within F (x >>= f) where
  of_ok h := by
    obtain ⟨a, s₁, hFirst, hRest⟩ := bind_ok_iff.mp h
    exact F.trans (hx.of_ok hFirst) ((hf a).of_ok hRest)

theorem check {c : Prop} [Decidable c] (hf : ∀ u, Within F (f u)) : Within F (Tx.failIf c e >>= f) :=
  bind failIf hf

theorem fetch (hf : ∀ a, Within F (f a)) :
    Within F (Tx.read g >>= fun row? => Tx.require row? e >>= f) :=
  bind read fun _ => bind require hf

theorem when {c : Prop} [Decidable c] (h : c → Within F x) :
    Within F (Tx.when c x) := by
  unfold Tx.when
  split
  · next hc => exact h hc
  · exact pure

theorem ite {c : Prop} [Decidable c] (hx : c → Within F x) (hy : ¬ c → Within F y) :
    Within F (if c then x else y) := by
  split
  · next hc => exact hx hc
  · next hc => exact hy hc

theorem void (h : Within F x) : Within F x.void :=
  bind h fun _ => pure

theorem mapErr (h : Within F x) : Within F (x.mapErr f) where
  of_ok hRun := h.of_ok (mapErr_ok_iff.mp hRun)

theorem savepoint (h : Within F x) : Within F x.savepoint where
  of_ok hRun := by
    rcases savepoint_ok_iff.mp hRun with ⟨a, -, hOk⟩ | ⟨e, -, -, rfl⟩
    · exact h.of_ok hOk
    · exact F.refl _

theorem mono (h : Within F x) (hSub : ∀ s s', F.rel s s' → G.rel s s') :
    Within G x where
  of_ok hRun := hSub _ _ (h.of_ok hRun)

/-- A committed transaction stays within the frame whether or not it succeeds. -/
theorem commit (h : Within F x) (s : σ) : F.rel s (x.commit s).1 :=
  commit_preserves (P := F.rel s) (F.refl s) fun _ _ hRun => h.of_ok hRun

end Within

end Tx

end XyApi.Lib
