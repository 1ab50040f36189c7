import Causeway.Proofs.Changes
import Causeway.Proofs.HandOver

/-!
# Causeway.Proofs.Loans

An object is lent as often as the open calls have lent it.

* `openLoans`         — what the open frames have lent.
* `Registry.loansOf`  — how often an object is lent.
* `Point.Balanced`    — the two agree, for every handle of every type.
* `World.Unlent`      — where a run starts: no call is open and nothing is lent.
* `Takes`             — the operations that take an object away from its holder.
* `loans_are_the_open_frames_loans` — the statement for every run of a program that lends through frames.
-/

namespace Causeway

variable {τ β σ α : Type}

/-- What the open frames have lent. -/
def openLoans (frames : Array (Frame τ β)) : List (τ × Handle) := (frames.toList.map Frame.loans).flatten

/-- How often the object of a handle is lent. A handle that names nothing is not lent. -/
def Registry.loansOf (r : Registry) (h : Handle) : Nat :=
  match r.lookup h with
  | .ok e => e.loans
  | .error _ => 0

/-! ## Frames -/

theorem openLoans_push (frames : Array (Frame τ β)) : openLoans (frames.push {}) = openLoans frames := by
  simp [openLoans]

/-- The innermost frame's loans come last. -/
theorem openLoans_pop (frames : Array (Frame τ β)) :
    openLoans frames = openLoans frames.pop ++ (frames.back?.getD {}).loans := by
  rcases Nat.eq_zero_or_pos frames.size with hsize | hsize
  · rw [Array.size_eq_zero_iff.mp hsize]
    rfl
  · obtain ⟨outer, f, rfl⟩ := Array.eq_push_of_size_ne_zero (Nat.ne_of_gt hsize)
    simp [openLoans]

/-- Changing a frame otherwise than in its loans. -/
theorem openLoans_modify {frames : Array (Frame τ β)} {level : Nat} {g : Frame τ β → Frame τ β}
    (hg : ∀ f, (g f).loans = f.loans) : openLoans (frames.modify level g) = openLoans frames := by
  unfold openLoans
  rw [Array.toList_modify]
  generalize frames.toList = fs
  induction fs generalizing level with
  | nil => simp
  | cons f fs ih =>
    cases level with
    | zero => simp [hg]
    | succ level =>
      rw [List.modify_succ_cons, List.map_cons, List.flatten_cons, ih]
      rfl

theorem openLoans_lend {frames : Array (Frame τ β)} {level : Nat} (hlevel : level < frames.size)
    (x : τ × Handle) :
    (openLoans (frames.modify level fun f => { f with loans := x :: f.loans })).Perm
      (x :: openLoans frames) := by
  unfold openLoans
  rw [Array.toList_modify]
  rw [← Array.length_toList] at hlevel
  generalize frames.toList = fs at hlevel
  induction fs generalizing level with
  | nil => cases hlevel
  | cons f fs ih =>
    cases level with
    | zero => exact .refl _
    | succ level =>
      rw [List.modify_succ_cons, List.map_cons, List.map_cons, List.flatten_cons, List.flatten_cons]
      exact ((ih (Nat.lt_of_succ_lt_succ hlevel)).append_left f.loans).trans List.perm_middle

/-! ## Registries -/

namespace Registry

theorem loansOf_eq {r : Registry} {h : Handle} {e : Entry} (hl : r.lookup h = .ok e) :
    r.loansOf h = e.loans := by
  unfold loansOf
  rw [hl]

theorem loansOf_congr {r r' : Registry} {h : Handle} (hl : r'.lookup h = r.lookup h) :
    r'.loansOf h = r.loansOf h := by
  unfold loansOf
  rw [hl]

/-- A lent object is there. -/
theorem lookup_of_loansOf_pos {r : Registry} {h : Handle} (hpos : 0 < r.loansOf h) :
    ∃ e, r.lookup h = .ok e ∧ 0 < e.loans := by
  unfold loansOf at hpos
  cases hl : r.lookup h with
  | ok e => rw [hl] at hpos; exact ⟨e, rfl, hpos⟩
  | error x => rw [hl] at hpos; cases hpos

theorem loansOf_put {r : Registry} {h : Handle} {e : Entry} (hl : r.lookup h = .ok e) (e' : Entry)
    (k : Handle) : (r.put h e').loansOf k = if k = h then e'.loans else r.loansOf k := by
  by_cases hk : k = h
  · rw [if_pos hk, loansOf_eq (lookup_put hl e' k ▸ if_pos hk)]
  · rw [if_neg hk]
    exact loansOf_congr (by rw [lookup_put hl e' k, if_neg hk])

theorem loansOf_vacate {r : Registry} {h : Handle} {e : Entry} (hl : r.lookup h = .ok e)
    (hloans : e.loans = 0) (k : Handle) : (r.vacate h).loansOf k = r.loansOf k := by
  by_cases hk : k = h
  · subst hk
    rw [loansOf_eq hl, hloans, loansOf, lookup_vacate hl k, if_pos rfl]
  · exact loansOf_congr (by rw [lookup_vacate hl k, if_neg hk])

theorem Sound.loansOf_insert {r r' : Registry} {a : Address} {d : Destructor} {room : Bool} {h : Handle}
    (hs : r.Sound) (hi : r.insert a d room = .ok (h, r')) (k : Handle) : r'.loansOf k = r.loansOf k := by
  by_cases hk : k = h
  · subst hk
    have hnone : r.loansOf k = 0 := by
      unfold loansOf
      cases hl : r.lookup k with
      | ok e => exact absurd hl ((hs.insert_fresh hi).2 e)
      | error x => rfl
    rw [hnone, loansOf, lookup_insert hs hi k, if_pos rfl]
  · exact loansOf_congr (by rw [lookup_insert hs hi k, if_neg hk])

end Registry

/-- Every object is lent as often as a list says. -/
def Registries.Balanced [DecidableEq τ] (rs : Registries τ) (lent : List (τ × Handle)) : Prop :=
  ∀ t h, (rs t).loansOf h = lent.count (t, h)

namespace Registries.Balanced

variable [DecidableEq τ] {rs : Registries τ} {lent lent' loans : List (τ × Handle)} {t : τ} {h : Handle}

theorem perm (hb : rs.Balanced lent) (hp : lent.Perm lent') : rs.Balanced lent' :=
  fun u k => (hb u k).trans (hp.count_eq _)

/-- Something is lent only if it is there. -/
theorem lookup (hb : rs.Balanced lent) (hmem : (t, h) ∈ lent) :
    ∃ e, (rs t).lookup h = .ok e ∧ 0 < e.loans :=
  Registry.lookup_of_loansOf_pos (hb t h ▸ List.count_pos_iff.mpr hmem)

/-- Another registry for one type, in which every object is lent as often as before. -/
theorem set {r : Registry} (hb : rs.Balanced lent) (hloans : ∀ k, r.loansOf k = (rs t).loansOf k) :
    (rs.set t r).Balanced lent := by
  intro u k
  by_cases hu : u = t
  · subst hu
    rw [set_same, hloans k]
    exact hb u k
  · rw [set_other rs r hu]
    exact hb u k

/-- Another number of loans for one object. -/
theorem put {e e' : Entry} (hb : rs.Balanced lent) (hl : (rs t).lookup h = .ok e)
    (hhere : e'.loans = lent'.count (t, h)) (haway : ∀ x, x ≠ (t, h) → lent.count x = lent'.count x) :
    (rs.set t ((rs t).put h e')).Balanced lent' := by
  intro u k
  by_cases hu : u = t
  · subst hu
    rw [set_same, Registry.loansOf_put hl]
    split
    · rename_i hk
      rw [hhere, hk]
    · rename_i hk
      rw [hb u k, haway]
      exact fun heq => hk (Prod.mk.inj heq).2
  · rw [set_other rs _ hu, hb u k, haway]
    exact fun heq => hu (Prod.mk.inj heq).1

theorem transfer {giver taker : Side} {r : Registry} (hb : rs.Balanced lent)
    (hr : (rs t).transfer h giver taker = .ok r) : (rs.set t r).Balanced lent := by
  obtain ⟨e, hl, _, _, rfl⟩ := Registry.transfer_eq_ok.mp hr
  refine hb.put hl ?_ fun _ _ => rfl
  rw [← hb t h, Registry.loansOf_eq hl]

theorem lend {r : Registry} (hb : rs.Balanced lent) (hr : (rs t).lend h = .ok r) :
    (rs.set t r).Balanced ((t, h) :: lent) := by
  obtain ⟨e, hl, rfl⟩ := Registry.lend_eq_ok hr
  refine hb.put hl ?_ fun x hx => (List.count_cons_of_ne hx.symm).symm
  rw [List.count_cons_self, ← hb t h, Registry.loansOf_eq hl]

/-- A loan that is counted can be ended. -/
theorem endLoan (hb : rs.Balanced ((t, h) :: lent)) :
    ∃ r, (rs t).endLoan h = .ok r ∧ (rs.set t r).Balanced lent := by
  obtain ⟨e, hl, hpos⟩ := hb.lookup List.mem_cons_self
  have hcount := hb t h
  rw [List.count_cons_self, Registry.loansOf_eq hl] at hcount
  refine ⟨_, Registry.endLoan_eq_ok.mpr ⟨e, hl, Nat.ne_of_gt hpos, rfl⟩, hb.put hl ?_ ?_⟩
  · simp only
    omega
  · exact fun x hx => List.count_cons_of_ne hx.symm

theorem endLoans (hb : rs.Balanced (loans ++ lent)) : (rs.endLoans loans).Balanced lent := by
  induction loans generalizing rs with
  | nil => exact hb
  | cons x loans ih =>
    obtain ⟨t, h⟩ := x
    obtain ⟨r, hr, hb'⟩ := hb.endLoan
    unfold Registries.endLoans
    rw [hr]
    exact ih hb'

theorem loanFailure?_eq_none {loans lent : List (τ × Handle)} {rs : Registries τ}
    (hb : rs.Balanced (loans ++ lent)) : rs.loanFailure? loans = none := by
  induction loans generalizing rs with
  | nil => rfl
  | cons x loans ih =>
    obtain ⟨t, h⟩ := x
    obtain ⟨r, hr, hb'⟩ := hb.endLoan
    unfold Registries.loanFailure?
    rw [hr]
    exact ih hb'

end Registries.Balanced

/-- Ending loans that are counted reports nothing. -/
theorem Call.endLoans_eq_none [DecidableEq τ] {loans lent : List (τ × Handle)}
    {w : World τ (Note τ) β σ} (hb : w.registries.Balanced (loans ++ lent)) :
    (Call.endLoans loans w).1 = .ok none := by
  rw [Call.endLoans_eq, hb.loanFailure?_eq_none]

/-! ## Every move keeps the balance -/

/-- Objects are lent as often as the open frames have lent them. -/
def Point.Balanced [DecidableEq τ] (s : Point τ β) : Prop := s.registries.Balanced (openLoans s.frames)

namespace Point.Balanced

variable [DecidableEq τ] {s s' : Point τ β}

/-- The loans of the innermost frame, taken apart from the others. -/
theorem innermost (hb : s.Balanced) :
    s.registries.Balanced ((s.frames.back?.getD {}).loans ++ openLoans s.frames.pop) := by
  refine Registries.Balanced.perm hb ?_
  rw [openLoans_pop s.frames]
  exact List.perm_append_comm

theorem move (hb : s.Balanced) (hs : ∀ t, (s.registries t).Sound) (hm : Move false s s') :
    s'.Balanced := by
  cases hm with
  | @register t a d room h r howner hi => exact Registries.Balanced.set hb ((hs t).loansOf_insert hi)
  | discard t d a => exact hb
  | drop hr =>
    obtain ⟨hl, _, hloans, rfl⟩ := Registry.remove_eq_ok.mp hr
    exact Registries.Balanced.set hb (Registry.loansOf_vacate hl hloans)
  | destroyed t h => exact Registries.Balanced.set hb fun _ => rfl
  | release hr =>
    obtain ⟨hl, _, hloans, rfl⟩ := Registry.remove_eq_ok.mp hr
    exact Registries.Balanced.set hb (Registry.loansOf_vacate hl hloans)
  | transfer hr => exact Registries.Balanced.transfer hb hr
  | beginLoan allowed hr => cases allowed
  | endLoan allowed hr => cases allowed
  | openFrame =>
    unfold Point.Balanced
    rw [openLoans_push]
    exact hb
  | lend hlevel hr => exact (Registries.Balanced.lend hb hr).perm (openLoans_lend hlevel _).symm
  | onFailure level b =>
    unfold Point.Balanced
    rw [openLoans_modify]
    · exact hb
    · exact fun _ => rfl
  | closeFrame => exact hb.innermost.endLoans

theorem moves (hb : s.Balanced) (hs : ∀ t, (s.registries t).Sound) (hm : Moves false s s') :
    s'.Balanced := by
  induction hm with
  | refl => exact hb
  | tail before step ih => exact ih.move (Moves.sound before hs) step

end Point.Balanced

/-! ## Lent objects stay, and references resolve -/

/-- The operations that take an object out or hand it to the other side. -/
inductive Takes [DecidableEq τ] (t : τ) (h : Handle) : {γ : Type} → Act τ (Note τ) β σ γ → Prop where
  | destroy (finalize : Finalizer τ (Note τ) β σ) (claimant : Side) :
      Takes t h (Objects.destroy finalize t h claimant)
  | release (claimant : Side) : Takes t h (Objects.release t h claimant)
  | transfer (giver taker : Side) : Takes t h (Act.updateRegistry t fun r => r.transfer h giver taker)
  | handOver (v : SharedValue τ) (taker : Side) (hmem : (t, h) ∈ v.handles) : Takes t h (v.handOver taker)

theorem Takes.refused [DecidableEq τ] {t : τ} {h : Handle} {γ : Type} {x : Act τ (Note τ) β σ γ}
    (hx : Takes t h x) {w : World τ (Note τ) β σ} {e : Entry} (hl : (w.registries t).lookup h = .ok e)
    (hlent : 0 < e.loans) : ∃ f, x w = (.fail f, w) := by
  -- every one of them asks for an object that is not lent
  have hfree : ∀ e', (w.registries t).lookup h = .ok e' → e'.loans ≠ 0 := by
    intro e' he'
    rw [hl] at he'
    cases he'
    exact Nat.ne_of_gt hlent
  cases hx with
  | destroy finalize claimant =>
    rcases Objects.destroy_cases finalize t h claimant w with ⟨e', r, w', hr, _⟩ | ⟨e', _, hrun⟩
    · obtain ⟨hl', _, hzero, _⟩ := Registry.remove_eq_ok.mp hr
      exact absurd hzero (hfree e' hl')
    · exact ⟨_, hrun⟩
  | release claimant =>
    rcases Objects.release_cases t h claimant w with ⟨a, r, w', hr, _⟩ | ⟨e', _, hrun⟩
    · obtain ⟨e', hl', _, hzero, _⟩ := Registry.release_eq_ok hr
      exact absurd hzero (hfree e' hl')
    · exact ⟨_, hrun⟩
  | transfer giver taker =>
    rcases Act.updateRegistry_cases t (fun r => r.transfer h giver taker) w with ⟨r, hr, _⟩ | ⟨e', _, hrun⟩
    · obtain ⟨e', hl', _, hzero, _⟩ := Registry.transfer_eq_ok.mp hr
      exact absurd hzero (hfree e' hl')
    · exact ⟨_, hrun⟩
  | handOver v taker hmem =>
    unfold SharedValue.handOver
    rw [v.releaseTo_eq taker]
    cases hall : Registries.transferAll taker v.handles w.registries with
    | error e' => exact ⟨_, rfl⟩
    | ok rs =>
      obtain ⟨⟨_, hmov⟩, _⟩ := Registries.transferAll_eq_ok.mp hall
      obtain ⟨e', hl', _, hzero⟩ := hmov (t, h) hmem
      exact absurd hzero (hfree e' hl')

theorem Registry.resolveRef_checked {r : Registry} {h : Handle} {e : Entry} (hl : r.lookup h = .ok e) :
    r.resolveRef h true = .ok e.address ↔ e.holder = .foreign ∨ 0 < e.loans := by
  unfold resolveRef
  rw [hl]
  cases hside : e.holder with
  | foreign => simp [hside]
  | host =>
    by_cases hzero : e.loans = 0
    · simp [hside, hzero]
    · simp [hzero, Nat.pos_of_ne_zero hzero]

theorem Handle.resolveRef_checked [DecidableEq τ] {t : τ} {h : Handle} {e : Entry} {s : Settings}
    {w : World τ (Note τ) β σ} (hl : (w.registries t).lookup h = .ok e)
    (hs : (Act.settings w).1 = .ok s) (hcheck : s.refCheck.enabled = true) :
    (h.resolveRef t w).1 = .ok e.address ↔ e.holder = .foreign ∨ 0 < e.loans := by
  have hpoint := Act.still_settings.idle w
  rcases hrun : Act.settings w with ⟨o, w'⟩
  rw [hrun] at hs hpoint
  have hregs : w'.registries = w.registries := congrArg Point.registries hpoint
  cases hs
  unfold Handle.resolveRef
  rw [Act.bind_of_ok hrun, ← Registry.resolveRef_checked hl, ← hregs, ← hcheck]
  rcases Act.readRegistry_cases t (fun r => r.resolveRef h s.refCheck.enabled) w' with
    ⟨a, ha, hread⟩ | ⟨x, hx, hread⟩
  · rw [hread, ha]
    simp
  · rw [hread, hx]
    simp

/-- No call is open and nothing is lent. -/
structure World.Unlent (w : World τ (Note τ) β σ) : Prop where
  sound : ∀ t, (w.registries t).Sound
  loans : ∀ t h, (w.registries t).loansOf h = 0
  frames : w.frames = #[]

theorem World.Unlent.balanced [DecidableEq τ] {w : World τ (Note τ) β σ} (hw : w.Unlent) :
    w.point.Balanced := by
  intro t h
  rw [show w.point.frames = #[] from hw.frames]
  exact hw.loans t h

/-- At every point of every run of a program that lends only through frames, every object is lent as often as
the open frames have lent it; a program may end the process anywhere, in any body, so the worlds in which runs
end are all such points. So nothing that an open frame has lent is destroyed, given back or handed over;
with references checked, an object the host holds resolves by reference exactly while it is lent and one the
foreign side holds always does; closing the innermost frame reports no loan; and a call that returns leaves
every object lent as often as before. -/
theorem loans_are_the_open_frames_loans [DecidableEq τ] (p : Program τ β σ false 0 α)
    (D : Destructors τ β σ false) (w₀ : World τ (Note τ) β σ) (hw₀ : w₀.Unlent) :
    let w := (p.exec D w₀).2
    (∀ t h, (w.registries t).loansOf h = (openLoans w.frames).count (t, h)) ∧
      (∀ t h, (t, h) ∈ openLoans w.frames → ∀ {γ : Type} (x : Act τ (Note τ) β σ γ), Takes t h x →
        ∃ f, x w = (.fail f, w)) ∧
      (∀ t h e s, (w.registries t).lookup h = .ok e → (Act.settings w).1 = .ok s →
        s.refCheck.enabled = true →
        ((h.resolveRef t w).1 = .ok e.address ↔ e.holder = .foreign ∨ (t, h) ∈ openLoans w.frames)) ∧
      (∀ f, w.frames.back? = some f →
        (Call.endLoans f.loans { w with frames := w.frames.pop }).1 = .ok none) ∧
      ∀ {γ : Type} (undo : β → Program τ β σ false 0 Unit) (s : Signature)
        (body : Program τ β σ false 1 γ),
        let r := Call.invoke (fun b => (undo b).exec D) s
          (fun level => body.run D.finalizer (Program.inBody level nofun)) w
        r.1.isAbort = false → ∀ t h, (r.2.registries t).loansOf h = (w.registries t).loansOf h := by
  intro w
  have hbal : w.point.Balanced := hw₀.balanced.moves hw₀.sound (p.exec_course D w₀).moves
  have hsound : ∀ t, (w.registries t).Sound := (p.exec_course D w₀).moves.sound hw₀.sound
  have hcount : ∀ t h, (w.registries t).loansOf h = (openLoans w.frames).count (t, h) := hbal
  refine ⟨hcount, fun t h hmem γ x hx => ?_, fun t h e s hl hs hcheck => ?_, fun f hf => ?_, ?_⟩
  · obtain ⟨e, hl, hlent⟩ := hbal.lookup hmem
    exact hx.refused hl hlent
  · rw [Handle.resolveRef_checked hl hs hcheck, ← List.count_pos_iff, ← hcount t h,
      Registry.loansOf_eq hl]
  · have hinner := hbal.innermost
    rw [show w.point.frames.back? = some f from hf] at hinner
    exact Call.endLoans_eq_none hinner
  · intro γ undo s body r hended t h
    have hcourse := (Program.invoke undo s body : Program τ β σ false 0 γ).exec_course D w
    have hframes : r.2.frames = w.frames := (hcourse.settled hended).2.eq_of_none
    have hafter : (r.2.registries t).loansOf h = (openLoans r.2.frames).count (t, h) :=
      hbal.moves hsound hcourse.moves t h
    rw [hafter, hframes, hcount t h]

theorem ObjectType.unlent_world : ObjectType.world.Unlent := by
  refine ⟨fun _ => Registry.sound_of_empty rfl rfl, fun t h => ?_, rfl⟩
  unfold Registry.loansOf
  cases hl : (ObjectType.world.registries t).lookup h with
  | error x => rfl
  | ok e =>
    have hslot := (Registry.lookup_eq_ok.mp hl).2
    simp [ObjectType.world, ObjectType.registry] at hslot

/-- A call lends an object to itself and to the call it is in, and the process ends there. -/
def midCall : Program ObjectType Unit Unit false 0 Unit :=
  .bind (.create .obj 8 none true) fun h =>
  .invoke (fun _ => .done) { namespacePath := "demo", name := "visit", callee := .foreign } <|
  .invoke (fun _ => .done) { namespacePath := "demo", name := "answer", callee := .host } <|
  .bind (.lend 0 .obj h true) fun _ =>
  .bind (.lend 1 .obj h true) fun _ =>
  .idle (Act.abort (.panic "stop")) (Act.idle_abort _)

theorem midCall_openLoans : openLoans (midCall.exec ObjectType.destructors ObjectType.world).2.frames =
    [(.obj, ⟨0, 1⟩), (.obj, ⟨0, 1⟩)] := by
  decide +kernel

theorem loans_are_the_open_frames_loans_in_midCall :
    let w := (midCall.exec ObjectType.destructors ObjectType.world).2
    (w.registries .obj).loansOf ⟨0, 1⟩ = 2 ∧ (w.registries .obj).loansOf ⟨0, 2⟩ = 0 ∧
      ∃ f, Objects.release .obj ⟨0, 1⟩ .host w = (.fail f, w) := by
  have hrun :=
    loans_are_the_open_frames_loans midCall ObjectType.destructors ObjectType.world ObjectType.unlent_world
  have hloans := midCall_openLoans
  revert hrun hloans
  generalize (midCall.exec ObjectType.destructors ObjectType.world).2 = w
  rintro ⟨hcount, htakes, _⟩ hloans
  rw [hloans] at hcount htakes
  refine ⟨?_, ?_, htakes .obj ⟨0, 1⟩ List.mem_cons_self _ (.release .host)⟩
  · rw [hcount]
    decide
  · rw [hcount]
    decide

end Causeway
