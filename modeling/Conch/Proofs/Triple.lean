import Conch.Exec.World
/-! Triples over actions on the world, `Triple pre act post fault`, with one rule per step of a `do`
block, and `Agree`, two actions that run alike. Frames and collected output are invisible to
`Visible` properties. -/
namespace Conch.Exec

variable {α β : Type}

theorem run_bind (x : Exec α) (f : α → Exec β) (w : World) :
    (x >>= f).run.run w = match x.run.run w with
      | (.ok a, w') => (f a).run.run w'
      | (.error e, w') => (.error e, w') := by
  simp only [ExceptT.run_bind, StateT.run_bind]
  rcases x.run.run w with ⟨_ | a, w'⟩ <;> rfl

/-- `act`, started where `pre` holds, ends in `post` on a result and in `fault` on a fault. -/
def Triple (pre : World → Prop) (act : Exec α) (post : α → World → Prop) (fault : World → Prop) :
    Prop :=
  ∀ w, pre w → match act.run.run w with
    | (.ok a, w') => post a w'
    | (.error _, w') => fault w'

/-- A property of worlds that looks only at the session and the log of started commands. -/
def Visible (p : World → Prop) : Prop :=
  ∀ w w', w'.shell = w.shell → w'.launches = w.launches → p w → p w'

theorem Visible.and {p q : World → Prop} (hp : Visible p) (hq : Visible q) :
    Visible (fun w => p w ∧ q w) := fun w w' hs hl h => ⟨hp w w' hs hl h.1, hq w w' hs hl h.2⟩

theorem Visible.comp {p : World → Prop} (hp : Visible p) (g : Shell → Shell) :
    Visible (fun w => p { w with shell := g w.shell }) := fun w w' hs hl h =>
  hp { w with shell := g w.shell } { w' with shell := g w'.shell } (by simp only [hs]) hl h

namespace Triple

variable {pre pre' : World → Prop} {post post' : α → World → Prop} {fault fault' : World → Prop}
  {act : Exec α}

theorem conseq (h : Triple pre act post fault) (hp : ∀ w, pre' w → pre w)
    (hq : ∀ a w, post a w → post' a w) (hf : ∀ w, fault w → fault' w) :
    Triple pre' act post' fault' := by
  intro w hw
  have := h w (hp w hw)
  split at this <;> simp_all

theorem and {post₂ : α → World → Prop} {pre₂ fault₂ : World → Prop}
    (h₁ : Triple pre act post fault) (h₂ : Triple pre₂ act post₂ fault₂) :
    Triple (fun w => pre w ∧ pre₂ w) act (fun a w => post a w ∧ post₂ a w)
      (fun w => fault w ∧ fault₂ w) := by
  intro w ⟨hw, hw₂⟩
  have r₁ := h₁ w hw
  have r₂ := h₂ w hw₂
  rcases hr : act.run.run w with ⟨_ | a, w'⟩ <;> rw [hr] at r₁ r₂ <;> exact ⟨r₁, r₂⟩

theorem trivial : Triple pre act (fun _ _ => True) (fun _ => True) := by
  intro w _
  rcases act.run.run w with ⟨_ | a, w'⟩ <;> exact True.intro

theorem post_of_ok (h : Triple pre act post fault) {w w' : World} {a : α} (hw : pre w)
    (hr : act.run.run w = (.ok a, w')) : post a w' := by
  have hpost := h w hw
  rw [hr] at hpost
  exact hpost

theorem const {p : Prop} : Triple (fun _ => p) act (fun _ _ => p) (fun _ => p) := by
  intro w hw
  rcases act.run.run w with ⟨_ | a, w'⟩ <;> exact hw

theorem of_start (h : ∀ w₀, pre w₀ → Triple (fun w => w = w₀) act post fault) :
    Triple pre act post fault :=
  fun w hw => h w hw w rfl

theorem pure {a : α} (h : ∀ w, pre w → post a w) : Triple pre (Pure.pure a : Exec α) post fault :=
  fun w hw => h w hw

theorem bind {mid : α → World → Prop} {f : α → Exec β} {post : β → World → Prop}
    (hx : Triple pre act mid fault) (hf : ∀ a, Triple (mid a) (f a) post fault) :
    Triple pre (act >>= f) post fault := by
  intro w hw
  have h := hx w hw
  rw [run_bind]
  rcases hr : act.run.run w with ⟨_ | a, w'⟩ <;> rw [hr] at h
  · exact h
  · exact hf a w' h

theorem throw {e : Fault} (h : ∀ w, pre w → fault w) :
    Triple pre (MonadExcept.throw e : Exec α) post fault :=
  fun w hw => h w hw

theorem bind_inv {f : α → Exec β} {post : β → World → Prop}
    (hx : Triple pre act (fun _ => pre) fault)
    (hf : ∀ a, Triple pre (f a) post fault) : Triple pre (act >>= f) post fault :=
  bind hx hf

theorem throw_bind {e : Fault} {f : α → Exec β} {post : β → World → Prop}
    (h : ∀ w, pre w → fault w) : Triple pre (MonadExcept.throw e >>= f) post fault :=
  fun w hw => h w hw

theorem get {post : World → World → Prop} (h : ∀ w, pre w → post w w) :
    Triple pre (MonadState.get : Exec World) post fault :=
  fun w hw => h w hw

theorem modify {f : World → World} {post : PUnit → World → Prop}
    (h : ∀ w, pre w → post () (f w)) : Triple pre (modify f : Exec PUnit) post fault :=
  fun w hw => h w hw

end Triple

theorem run_get (w : World) : (get : Exec World).run.run w = (.ok w, w) := rfl

theorem run_attempt (act : Exec α) (w : World) :
    (attempt act).run.run w = match act.run.run w with
      | (.ok a, w') => (.ok (.ok a), w')
      | (.error e, w') => (.ok (.error e), w') := by
  simp only [attempt, ExceptT.run_tryCatch, ExceptT.run_map, StateT.run_bind, StateT.run_map]
  rcases act.run.run w with ⟨_ | a, w'⟩ <;> rfl

namespace Triple

variable {pre : World → Prop} {post : α → World → Prop} {fault : World → Prop} {act : Exec α}

theorem attempt {fault' : World → Prop} (h : Triple pre act post fault) :
    Triple pre (Exec.attempt act)
      (fun r w => match r with | .ok a => post a w | .error _ => fault w) fault' := by
  intro w hw
  have hr := h w hw
  rw [run_attempt]
  rcases hx : act.run.run w with ⟨_ | a, w'⟩ <;> rw [hx] at hr <;> exact hr

/-- `ensuring`: the clean-up runs after a result and after a fault alike. -/
theorem ensuring {cleanup : Exec Unit} {mid : α → World → Prop} {midFault : World → Prop}
    (h : Triple pre act mid midFault) (hok : ∀ a, Triple (mid a) cleanup (fun _ => post a) fault)
    (herr : Triple midFault cleanup (fun _ => fault) fault) :
    Triple pre (Exec.ensuring act cleanup) post fault := by
  refine bind (attempt h) fun r => ?_
  rcases r with e | a
  · exact bind herr fun _ => throw fun _ hw => hw
  · exact bind (hok a) fun _ => pure fun _ hw => hw

theorem reach {x : Stack.Excursion} (h : ∀ w, pre w → fault w) :
    Triple pre (Exec.reach x) (fun _ => pre) fault := by
  intro w hw
  rcases hb : x.blocked? (Stack.limit - w.stack) with _ | e <;>
    simp only [Exec.reach, run_bind, run_get, hb]
  · exact hw
  · exact h w hw

theorem world_bind {f : World → Exec β} {post : β → World → Prop}
    (h : ∀ v, Triple (fun w => pre w ∧ w = v) (f v) post fault) :
    Triple pre (Exec.world >>= f) post fault := by
  refine bind ?_ h
  exact get fun _ hw => ⟨hw, rfl⟩

theorem shell_bind {f : Shell → Exec β} {post : β → World → Prop}
    (h : ∀ s, Triple (fun w => pre w ∧ w.shell = s) (f s) post fault) :
    Triple pre (Exec.shell >>= f) post fault := by
  intro w hw
  simp only [Exec.shell, run_bind]
  exact h w.shell w ⟨hw, rfl⟩

theorem shell_read : Triple pre Exec.shell (fun s w => pre w ∧ w.shell = s) fault :=
  fun _ hw => ⟨hw, rfl⟩

theorem flags_read : Triple pre Exec.flags (fun fl w => pre w ∧ w.shell.flags = fl) fault :=
  fun _ hw => ⟨hw, rfl⟩

theorem world_bind_of {f : World → Exec β} {post : β → World → Prop}
    (h : ∀ v, Triple pre (f v) post fault) : Triple pre (Exec.world >>= f) post fault :=
  world_bind fun v => (h v).conseq (fun _ hw => hw.1) (fun _ _ h => h) (fun _ h => h)

theorem shell_bind_of {f : Shell → Exec β} {post : β → World → Prop}
    (h : ∀ s, Triple pre (f s) post fault) : Triple pre (Exec.shell >>= f) post fault :=
  shell_bind fun s => (h s).conseq (fun _ hw => hw.1) (fun _ _ h => h) (fun _ h => h)

theorem shell_bind_known {f : Shell → Exec β} {post : β → World → Prop} {s : Shell}
    (hs : ∀ w, pre w → w.shell = s) (h : Triple pre (f s) post fault) :
    Triple pre (Exec.shell >>= f) post fault := by
  intro w hw
  have hf := h w hw
  rw [← hs w hw] at hf
  exact hf

theorem flags_bind {f : Flags → Exec β} {post : β → World → Prop}
    (h : ∀ fl, Triple (fun w => pre w ∧ w.shell.flags = fl) (f fl) post fault) :
    Triple pre (Exec.flags >>= f) post fault := by
  intro w hw
  simp only [Exec.flags, run_bind]
  exact h w.shell.flags w ⟨hw, rfl⟩

theorem modifyShell {f : Shell → Shell} {post : Unit → World → Prop}
    (h : ∀ w, pre w → post () { w with shell := f w.shell }) :
    Triple pre (Exec.modifyShell f) post fault :=
  modify h

theorem say {s : String} (hp : Visible pre) : Triple pre (Exec.say s) (fun _ => pre) fault :=
  modify fun w hw => hp w _ rfl rfl hw

theorem warn {s : String} (hp : Visible pre) : Triple pre (Exec.warn s) (fun _ => pre) fault :=
  modify fun w hw => hp w _ rfl rfl hw

theorem now (hp : Visible pre) : Triple pre Exec.now (fun _ => pre) fault :=
  fun w hw => hp w _ rfl rfl hw

theorem say_pure {s : String} {a : β} {post : β → World → Prop} (hp : Visible pre)
    (h : ∀ w, pre w → post a w) :
    Triple pre (Exec.say s >>= fun _ => (Pure.pure a : Exec β)) post fault :=
  bind_inv (say hp) fun _ => pure h

theorem warn_pure {s : String} {a : β} {post : β → World → Prop} (hp : Visible pre)
    (h : ∀ w, pre w → post a w) :
    Triple pre (Exec.warn s >>= fun _ => (Pure.pure a : Exec β)) post fault :=
  bind_inv (warn hp) fun _ => pure h

/-- Entering a frame of the machine's stack and leaving it are invisible. -/
theorem frame (h : Triple pre act post fault) (hpre : Visible pre) (hpost : ∀ a, Visible (post a))
    (hfault : Visible fault) (hpf : ∀ w, pre w → fault w) :
    Triple pre (Exec.frame act) post fault := by
  refine bind (reach hpf) fun _ => bind ?_ fun _ => ensuring h (fun a => ?_) ?_
  · exact modify fun w hw => hpre w _ rfl rfl hw
  · exact modify fun w hw => hpost a w _ rfl rfl hw
  · exact modify fun w hw => hfault w _ rfl rfl hw

/-- Collecting the output of an action is invisible. -/
theorem capture (h : Triple pre act post fault) (hpre : Visible pre)
    (hpost : ∀ a, Visible (post a)) (hfault : Visible fault) :
    Triple pre (Exec.capture act) (fun r => post r.1) fault := by
  refine world_bind fun v => bind ?_ fun _ => bind (attempt h) fun r => world_bind fun v' => ?_
  · exact modify fun w hw => hpre w _ rfl rfl hw.1
  rcases r with e | a
  · refine bind (modify fun w hw => ?_) fun _ => throw fun _ hw => hw
    exact hfault w _ rfl rfl hw.1
  · refine bind (modify fun w hw => ?_) fun _ => pure fun _ hw => hw
    exact hpost a w _ rfl rfl hw.1

/-- A loop keeps an invariant that every round keeps. -/
theorem forIn_list {γ : Type} {inv : World → Prop} {body : γ → β → Exec (ForInStep β)}
    (h : ∀ x b, Triple inv (body x b) (fun _ => inv) inv) :
    ∀ (xs : List γ) (b : β), Triple inv (forIn xs b body) (fun _ => inv) inv
  | [], _ => pure fun _ hw => hw
  | x :: xs, b => by
    rw [List.forIn_cons]
    refine bind (h x b) fun r => ?_
    rcases r with b' | b'
    · exact pure fun _ hw => hw
    · exact forIn_list h xs b'

end Triple

/-- Two actions that run alike, to the same result and world, from every world where `pre`
holds. -/
def Agree (pre : World → Prop) (a b : Exec α) : Prop :=
  ∀ w, pre w → a.run.run w = b.run.run w

namespace Agree

variable {pre pre' : World → Prop} {a b : Exec α}

theorem refl (pre : World → Prop) (a : Exec α) : Agree pre a a := fun _ _ => rfl

theorem mono (h : Agree pre a b) (hp : ∀ w, pre' w → pre w) : Agree pre' a b :=
  fun w hw => h w (hp w hw)

theorem bind {x y : Exec α} {f g : α → Exec β} {mid : α → World → Prop} (hxy : Agree pre x y)
    (hx : Triple pre x mid fun _ => True) (hfg : ∀ a, Agree (mid a) (f a) (g a)) :
    Agree pre (x >>= f) (y >>= g) := by
  intro w hw
  have hm := hx w hw
  rw [run_bind, run_bind, ← hxy w hw]
  rcases hr : x.run.run w with ⟨_ | c, w'⟩
  · rfl
  · rw [hr] at hm
    exact hfg c w' hm

theorem attempt (h : Agree pre a b) : Agree pre (Exec.attempt a) (Exec.attempt b) := by
  intro w hw
  rw [run_attempt, run_attempt, h w hw]

theorem frame (h : Agree pre a b) (hp : Visible pre) : Agree pre (Exec.frame a) (Exec.frame b) := by
  have hreach : Triple pre (Exec.reach [.frame]) (fun _ => pre) fun _ => True :=
    Triple.reach fun _ _ => True.intro
  have henter : Triple pre (modify fun w => { w with stack := w.stack + 1 } : Exec PUnit)
      (fun _ => pre) fun _ => True := Triple.modify fun w hw => hp w _ rfl rfl hw
  unfold Exec.frame Exec.ensuring
  refine bind (refl _ _) hreach fun _ => bind (refl _ _) henter fun _ => ?_
  exact bind h.attempt Triple.trivial fun _ => refl _ _

end Agree

end Conch.Exec
