import RefundAgent.Foundation.Trace
import RefundAgent.System.Reach

/-!
# One call among others

A call keeps its place in the list of calls.  The stages that change what stands
in that place are the transactions of the call, and they form a trace of the
program that it began as.
-/

namespace RefundAgent

open Foundation

/-- The stage makes one transaction of the call in the given place. -/
def Advances (i : Nat) (x : Stage World Event) : Prop :=
  exists r, x.before.calls[i]? = some r ∧ x.after.calls[i]? ≠ some r

/-- In this stage the call in the given place begins. -/
def Begins (i : Nat) {α : Type} (p : Call α) (x : Stage World Event) : Prop :=
  x.before.calls.length = i ∧ x.after.calls[i]? = some ⟨α, p⟩

/-- The call in the given place has come to an end. -/
def World.Ended (w : World) (i : Nat) {α : Type} (r : Except Failure α) : Prop :=
  w.calls[i]? = some ⟨α, Program.done r⟩

theorem getElem?_append_cons_of_ne {γ : Type 1} {before after : List γ} {a b : γ} {k : Nat}
    (hk : k ≠ before.length) :
    (before ++ a :: after)[k]? = (before ++ b :: after)[k]? := by
  rcases Nat.lt_or_gt_of_ne hk with hlt | hgt
  · rw [List.getElem?_append_left hlt, List.getElem?_append_left hlt]
  · rw [List.getElem?_append_right (Nat.le_of_lt hgt),
      List.getElem?_append_right (Nat.le_of_lt hgt)]
    rcases Nat.exists_eq_succ_of_ne_zero (Nat.sub_ne_zero_of_lt hgt) with ⟨l, hl⟩
    rw [hl, List.getElem?_cons_succ, List.getElem?_cons_succ]

theorem World.Step.calls {w w' : World} {e : Event} (h : World.Step w e w') :
    w'.calls = w.calls ∨ (exists r, w'.calls = w.calls ++ [r] ∧ w'.db = w.db) ∨
      exists (α : Type) (p q : Call α) (before after : List Running),
        w.calls = before ++ ⟨α, p⟩ :: after ∧ w'.calls = before ++ ⟨α, q⟩ :: after ∧
          Program.Advance (fun _ => True) p w.db q w'.db := by
  cases h with
  | @job j hadmissible =>
      left
      unfold World.perform
      cases j.transaction w.db with
      | ok r => rfl
      | error f => rfl
  | @start α p hmethod => exact Or.inr (Or.inl ⟨⟨α, p⟩, rfl, rfl⟩)
  | @advance α p q db' before after hcalls hstep =>
      exact Or.inr (Or.inr ⟨α, p, q, before, after, hcalls, rfl, hstep⟩)

theorem World.Step.place {w w' : World} {e : Event} (h : World.Step w e w') {i : Nat}
    {α : Type} {p : Call α} (hp : w.calls[i]? = some ⟨α, p⟩) :
    w'.calls[i]? = some ⟨α, p⟩ ∨ exists q : Call α, w'.calls[i]? = some ⟨α, q⟩ ∧
      Program.Advance (fun _ => True) p w.db q w'.db := by
  have hbound : i < w.calls.length := (List.getElem?_eq_some_iff.mp hp).choose
  rcases h.calls with hsame | ⟨r, hnew, _⟩ | ⟨β, p', q, before, after, hold, hnew, hstep⟩
  · rw [hsame]
    exact Or.inl hp
  · rw [hnew, List.getElem?_append_left hbound]
    exact Or.inl hp
  · by_cases hi : i = before.length
    · rw [hold, hi, List.getElem?_append_right (Nat.le_refl _), Nat.sub_self] at hp
      have hp : (⟨β, p'⟩ : Running) = ⟨α, p⟩ := Option.some.inj hp
      cases hp
      refine Or.inr ⟨q, ?_, hstep⟩
      rw [hnew, hi, List.getElem?_append_right (Nat.le_refl _), Nat.sub_self]
      rfl
    · left
      rw [← hp, hold, hnew]
      exact getElem?_append_cons_of_ne hi

theorem World.Step.advances_unique {x : Stage World Event}
    (h : World.Step x.before x.event x.after) {i j : Nat} (hi : Advances i x)
    (hj : Advances j x) : i = j := by
  rcases hi with ⟨r, hr, hr'⟩
  rcases hj with ⟨s, hs, hs'⟩
  rcases h.calls with hsame | ⟨t, hnew, _⟩ | ⟨β, p, q, before, after, hold, hnew, _⟩
  · rw [hsame] at hr'
    exact absurd hr hr'
  · rw [hnew, List.getElem?_append_left (List.getElem?_eq_some_iff.mp hr).choose] at hr'
    exact absurd hr hr'
  · have hplace : forall {k : Nat} {t : Running}, x.before.calls[k]? = some t ->
        x.after.calls[k]? ≠ some t -> k = before.length := by
      intro k t hk hk'
      by_contra hne
      refine hk' ?_
      rw [← hk, hold, hnew]
      exact getElem?_append_cons_of_ne hne
    rw [hplace hr hr', hplace hs hs']

theorem World.Step.calls_length {w w' : World} {e : Event} (h : World.Step w e w') :
    w.calls.length ≤ w'.calls.length := by
  rcases h.calls with hsame | ⟨r, hnew, _⟩ | ⟨β, p, q, before, after, hold, hnew, _⟩
  · rw [hsame]
  · rw [hnew, List.length_append]
    exact Nat.le_add_right _ _
  · rw [hold, hnew, List.length_append, List.length_append]
    exact Nat.le_refl _

/-!
## The trace of a call
-/

/-- The states around the transactions of a stage. -/
def Stage.dbs (x : Stage World Event) : Database × Database :=
  (x.before.db, x.after.db)

/-- What befalls the call in the given place from outside is one of these failures. -/
def MeetsOnly (Fault : Failure -> Prop) (i : Nat) (x : Stage World Event) : Prop :=
  forall (α : Type) (p q : Call α), x.before.calls[i]? = some ⟨α, p⟩ ->
    x.after.calls[i]? = some ⟨α, q⟩ -> q ≠ p ->
    Program.Advance Fault p x.before.db q x.after.db

theorem World.Step.meetsOnly {x : Stage World Event}
    (h : World.Step x.before x.event x.after) (i : Nat) :
    MeetsOnly (fun _ => True) i x := by
  intro α p q hp hq hne
  rcases h.place hp with hsame | ⟨q', hq', hadvance⟩
  · rw [hsame] at hq
    cases Option.some.inj hq
    exact absurd rfl hne
  · rw [hq'] at hq
    cases Option.some.inj hq
    exact hadvance

/-- What the call in the given place has done by now, and what is left of it. -/
structure Followed (Fault : Failure -> Prop) (stages : List (Stage World Event))
    (w : World) (i : Nat) {α : Type} (p : Call α) (own : List (Database × Database))
    (q : Call α) : Prop where
  trace : Program.Trace Fault p own q
  now : w.calls[i]? = some ⟨α, q⟩
  ofStage : forall a, a ∈ own -> exists x, x ∈ stages ∧ Advances i x ∧ Stage.dbs x = a
  complete : forall x, x ∈ stages -> Advances i x -> Stage.dbs x ∈ own

/--
A rule for what is left of a call, with the stages so far: an assertion that holds when
the call begins, and that its own transactions and all other stages keep.
-/
theorem World.Runs.along {Fault : Failure -> Prop} {stages : List (Stage World Event)}
    {w : World} (h : World.Runs stages w) {x : Stage World Event} (hx : x ∈ stages) {i : Nat}
    {α : Type} {p : Call α} (hbegins : Begins i p x)
    (hmeets : forall y, y ∈ stages -> MeetsOnly Fault i y)
    {I : List (Stage World Event) -> World -> Call α -> Prop}
    (hbegin : forall past y, Begins i p y ->
      (forall z, z ∈ past ++ [y] -> ¬Advances i z) -> I (past ++ [y]) y.after p)
    (hothers : forall past y q, y ∈ stages -> ¬Advances i y ->
      y.after.calls[i]? = some ⟨α, q⟩ -> I past y.before q -> I (past ++ [y]) y.after q)
    (hown : forall past y q q', y ∈ stages -> Advances i y ->
      y.before.calls[i]? = some ⟨α, q⟩ -> y.after.calls[i]? = some ⟨α, q'⟩ ->
      Program.Advance Fault q y.before.db q' y.after.db ->
      I past y.before q -> I (past ++ [y]) y.after q') :
    exists q, w.calls[i]? = some ⟨α, q⟩ ∧ I stages w q := by
  rcases h with ⟨ids, hrun⟩
  have hkept := hrun.history (C := fun y => y ∈ stages) (l := [])
    (I := fun past w =>
      (forall y, y ∈ past -> forall k, Advances k y -> k < w.calls.length) ∧
      ((exists y, y ∈ past ∧ Begins i p y) ->
        exists q, w.calls[i]? = some ⟨α, q⟩ ∧ I past w q))
    ?_ ⟨fun y hy => (by cases hy), fun hy => (by rcases hy with ⟨y, hy, _⟩; cases hy)⟩
    (fun y hy => hy)
  · exact hkept.right ⟨x, hx, hbegins⟩
  · rintro past y hy hstep ⟨hplaces, hholds⟩
    have hplaces' : forall z, z ∈ past ++ [y] -> forall k, Advances k z ->
        k < y.before.calls.length := by
      intro z hz k hk
      rcases List.mem_append.mp hz with hz | hz
      · exact hplaces z hz k hk
      · rw [List.mem_singleton.mp hz] at hk
        rcases hk with ⟨r, hr, _⟩
        exact (List.getElem?_eq_some_iff.mp hr).choose
    constructor
    · intro z hz k hk
      exact Nat.lt_of_lt_of_le (hplaces' z hz k hk) hstep.calls_length
    · rintro ⟨z, hz, hbegun⟩
      rcases List.mem_append.mp hz with hz | hz
      · rcases hholds ⟨z, hz, hbegun⟩ with ⟨q, hnow, hI⟩
        rcases hstep.place hnow with hsame | ⟨q', hnext, hadvance⟩
        · refine ⟨q, hsame, hothers past y q hy ?_ hsame hI⟩
          rintro ⟨r, hr, hr'⟩
          rw [hnow] at hr
          rw [hsame, hr] at hr'
          exact absurd rfl hr'
        · have hne : y.after.calls[i]? ≠ some ⟨α, q⟩ := by
            rw [hnext]
            intro heq
            have heq : (⟨α, q'⟩ : Running) = ⟨α, q⟩ := Option.some.inj heq
            cases heq
            exact hadvance.ne rfl
          exact ⟨q', hnext, hown past y q q' hy ⟨_, hnow, hne⟩ hnow hnext
            (hmeets y hy α q q' hnow hnext hadvance.ne) hI⟩
      · -- the call begins now and has done nothing yet
        rw [List.mem_singleton.mp hz] at hbegun
        refine ⟨p, hbegun.right, hbegin past y hbegun ?_⟩
        intro u hu hadv
        have hlt := hplaces' u hu i hadv
        rw [hbegun.left] at hlt
        exact absurd hlt (Nat.lt_irrefl i)

section Follow

variable {Fault : Failure -> Prop} {past : List (Stage World Event)}
  {x : Stage World Event} {i : Nat} {α : Type} {p q : Call α}
  {own : List (Database × Database)}

theorem mem_snoc {y : Stage World Event} (hy : y ∈ past ++ [x]) : y ∈ past ∨ y = x := by
  rcases List.mem_append.mp hy with hy | hy
  · exact Or.inl hy
  · exact Or.inr (List.mem_singleton.mp hy)

theorem Followed.pass (h : Followed Fault past x.before i p own q) (hother : ¬Advances i x)
    (hnow : x.after.calls[i]? = some ⟨α, q⟩) :
    Followed Fault (past ++ [x]) x.after i p own q := by
  refine ⟨h.trace, hnow, ?_, ?_⟩
  · intro a ha
    rcases h.ofStage a ha with ⟨y, hy, hadv, hdbs⟩
    exact ⟨y, List.mem_append_left _ hy, hadv, hdbs⟩
  · intro y hy hadv
    rcases mem_snoc hy with hold | rfl
    · exact h.complete y hold hadv
    · exact absurd hadv hother

theorem Followed.step {q' : Call α} (h : Followed Fault past x.before i p own q)
    (hadv : Advances i x) (hnow : x.after.calls[i]? = some ⟨α, q'⟩)
    (hadvance : Program.Advance Fault q x.before.db q' x.after.db) :
    Followed Fault (past ++ [x]) x.after i p (own ++ [Stage.dbs x]) q' := by
  refine ⟨h.trace.snoc hadvance, hnow, ?_, ?_⟩
  · intro a ha
    rcases List.mem_append.mp ha with ha | ha
    · rcases h.ofStage a ha with ⟨y, hy, hadv', hdbs⟩
      exact ⟨y, List.mem_append_left _ hy, hadv', hdbs⟩
    · refine ⟨x, List.mem_append_right _ List.mem_cons_self, hadv, ?_⟩
      exact (List.mem_singleton.mp ha).symm
  · intro y hy hadv'
    rcases mem_snoc hy with hold | rfl
    · exact List.mem_append_left _ (h.complete y hold hadv')
    · exact List.mem_append_right _ List.mem_cons_self

end Follow

theorem World.Runs.followed {Fault : Failure -> Prop}
    {stages : List (Stage World Event)} {w : World} (h : World.Runs stages w)
    {x : Stage World Event} (hx : x ∈ stages) {i : Nat} {α : Type} {p : Call α}
    (hbegins : Begins i p x) (hmeets : forall y, y ∈ stages -> MeetsOnly Fault i y) :
    exists own q, Followed Fault stages w i p own q := by
  have hfollowed := h.along hx hbegins hmeets
    (I := fun past w q => exists own, Followed Fault past w i p own q) ?_ ?_ ?_
  · rcases hfollowed with ⟨q, _, own, hq⟩
    exact ⟨own, q, hq⟩
  · intro past y hbegun hnone
    exact ⟨[], Program.Trace.nil p, hbegun.right, fun a ha => (by cases ha),
      fun z hz hadv => absurd hadv (hnone z hz)⟩
  · rintro past y q _ hother hnow ⟨own, hq⟩
    exact ⟨own, hq.pass hother hnow⟩
  · rintro past y q q' _ hadv _ hnow hadvance ⟨own, hq⟩
    exact ⟨_, hq.step hadv hnow hadvance⟩

theorem World.Runs.returned {stages : List (Stage World Event)} {w : World}
    (h : World.Runs stages w) {x : Stage World Event} (hx : x ∈ stages) {i : Nat}
    {α : Type} {p : Call α} (hbegins : Begins i p x) {r : Except Failure α}
    (hended : w.Ended i r) :
    exists own, Program.Returns (fun _ => True) p own r ∧
      (forall a, a ∈ own -> exists y, y ∈ stages ∧ Advances i y ∧ Stage.dbs y = a) ∧
      (forall y, y ∈ stages -> Advances i y -> Stage.dbs y ∈ own) := by
  have hgood := h.good.right
  rcases h.followed hx hbegins (fun y hy => (hgood y hy).step.meetsOnly i) with ⟨own, q, hq⟩
  have hnow := hq.now
  unfold World.Ended at hended
  rw [hended] at hnow
  have hnow : (⟨α, Program.done r⟩ : Running) = ⟨α, q⟩ := Option.some.inj hnow
  cases hnow
  exact ⟨own, hq.trace, hq.ofStage, hq.complete⟩

/-!
## A call that nobody disturbs
-/

/-- The states that the transactions of a call start from when nobody disturbs it. -/
def visitedBy {α : Type} : Call α -> Database -> List Database
  | Program.done _, _ => []
  | Program.call tx next, db =>
      db :: visitedBy (next (tx.commit db).1) (tx.commit db).2

theorem World.run_visited {α : Type} (p : Call α) :
    forall (w : World) (before after : List Running), w.calls = before ++ ⟨α, p⟩ :: after ->
      exists more, Run World.Step w more
        { w with
          db := (p.run w.db).2
          calls := before ++ ⟨α, Program.done (p.run w.db).1⟩ :: after } ∧
        forall x, x ∈ more -> x.before.db ∈ visitedBy p w.db ∧
          forall Fault, MeetsOnly Fault before.length x := by
  induction p with
  | done r =>
      intro w before after hcalls
      refine ⟨[], ?_, by simp⟩
      have hsame : { w with
          db := ((Program.done r : Call α).run w.db).2
          calls := before ++ ⟨α, Program.done ((Program.done r : Call α).run
            w.db).1⟩ :: after } = w := by
        rcases w with ⟨db, handles, calls⟩
        cases hcalls
        rfl
      rw [hsame]
      exact Run.nil w
  | @call β tx next ih =>
      intro w before after hcalls
      have hadvance : forall Fault, Program.Advance Fault (Program.call tx next) w.db
          (next (tx.commit w.db).1) (tx.commit w.db).2 := by
        intro Fault
        rcases tx.commit_cases w.db with ⟨b, t, htx, hcommit⟩ | ⟨e, htx, hcommit⟩
        · rw [hcommit]
          exact Program.Advance.commit htx
        · rw [hcommit]
          exact Program.Advance.raise htx
      have hstep := @World.Step.advance w α _ _ _ before after hcalls (hadvance _)
      rcases ih (tx.commit w.db).1
        { w with
          db := (tx.commit w.db).2
          calls := before ++ ⟨α, next (tx.commit w.db).1⟩ :: after } before after rfl with
        ⟨more, hrun, hvisited⟩
      refine ⟨_, Run.cons hstep hrun, ?_⟩
      intro x hx
      rcases List.mem_cons.mp hx with rfl | hx
      · refine ⟨List.mem_cons_self, ?_⟩
        intro Fault γ p' q' hp' hq' _
        have hplace : forall r : Running, (before ++ r :: after)[before.length]? = some r :=
          fun r => by simp
        have hp' : w.calls[before.length]? = some ⟨γ, p'⟩ := hp'
        rw [hcalls, hplace] at hp'
        have hq' : (before ++ ⟨α, next (tx.commit w.db).1⟩ ::
          after)[before.length]? = some ⟨γ, q'⟩ := hq'
        rw [hplace] at hq'
        cases Option.some.inj hp'
        cases Option.some.inj hq'
        exact hadvance Fault
      · exact ⟨List.mem_cons_of_mem _ (hvisited x hx).left, (hvisited x hx).right⟩

theorem World.Runs.serve_traced {stages : List (Stage World Event)} {w : World}
    (h : World.Runs stages w) {α : Type} {p : Call α} (hp : Method AnyDecision p) :
    exists all x, World.Runs all (w.serve p) ∧ x ∈ all ∧ Begins w.calls.length p x ∧
      (w.serve p).Ended w.calls.length (p.run w.db).1 ∧
      (forall Fault y, y ∈ all -> MeetsOnly Fault w.calls.length y) ∧
      forall y, y ∈ all -> Advances w.calls.length y -> y.before.db ∈ visitedBy p w.db := by
  rcases h with ⟨ids, hrun⟩
  rcases World.run_visited p { w with calls := w.calls ++ [⟨α, p⟩] } w.calls [] rfl with
    ⟨more, hmore, hvisited⟩
  have hshort : forall y, y ∈ stages -> y.before.calls[w.calls.length]? = none := by
    intro y hy
    have htrans : forall {a b c : World}, a.calls.length ≤ b.calls.length ->
        b.calls.length ≤ c.calls.length -> a.calls.length ≤ c.calls.length :=
      fun h h' => Nat.le_trans h h'
    have hgrows := (hrun.invariant (I := fun _ => True) (C := fun _ => True)
      (fun _ _ _ _ => trivial) trivial (fun _ _ => trivial)).right
    have hlength := hrun.relates (R := fun w w' => w.calls.length ≤ w'.calls.length)
      (fun w => Nat.le_refl _) htrans (fun z hz => (hgrows z hz).left.calls_length)
    exact List.getElem?_eq_none
      (Nat.le_trans (hgrows y hy).left.calls_length (hlength.right y hy).right)
  have hbegin : (⟨w, Event.start, { w with calls := w.calls ++ [⟨α, p⟩] }⟩ :
      Stage World Event).before.calls[w.calls.length]? = none :=
    List.getElem?_eq_none (Nat.le_refl _)
  refine ⟨_, ⟨w, Event.start, { w with calls := w.calls ++ [⟨α, p⟩] }⟩,
    ⟨ids, hrun.append (Run.cons (World.Step.start hp) hmore)⟩,
    List.mem_append_right _ List.mem_cons_self, ⟨rfl, by simp⟩, ?_, ?_, ?_⟩
  · unfold World.Ended World.serve
    simp
  · intro Fault y hy
    rcases List.mem_append.mp hy with hy | hy
    · intro γ p' q' hp' _ _
      rw [hshort y hy] at hp'
      cases hp'
    · rcases List.mem_cons.mp hy with rfl | hy
      · intro γ p' q' hp' _ _
        rw [hbegin] at hp'
        cases hp'
      · exact (hvisited y hy).right Fault
  · rintro y hy ⟨r, hr, _⟩
    rcases List.mem_append.mp hy with hy | hy
    · rw [hshort y hy] at hr
      cases hr
    · rcases List.mem_cons.mp hy with rfl | hy
      · rw [hbegin] at hr
        cases hr
      · exact (hvisited y hy).left

/-!
## Two calls at once
-/

/-- The next transaction of a call, if it has one left. -/
def nextOf {α : Type} : Call α -> Database -> Call α × Database
  | Program.done r, db => (Program.done r, db)
  | Program.call tx next, db => (next (tx.commit db).1, (tx.commit db).2)

/-- What is left of two calls that take turns: where the schedule says `true`, the first
of the two makes a transaction. -/
def raceOf {α β : Type} : List Bool -> Call α -> Call β -> Database ->
    Call α × Call β × Database
  | [], p, q, db => (p, q, db)
  | true :: schedule, p, q, db => raceOf schedule (nextOf p db).1 q (nextOf p db).2
  | false :: schedule, p, q, db => raceOf schedule p (nextOf q db).1 (nextOf q db).2

def resultOf {α : Type} : Call α -> Option (Except Failure α)
  | Program.done r => some r
  | Program.call _ _ => none

theorem resultOf_ok {α γ : Type} {p : Call α} {f : α -> γ} {c : γ}
    (h : ((resultOf p).bind Except.toOption).map f = some c) :
    exists a, resultOf p = some (Except.ok a) ∧ f a = c := by
  rcases Option.map_eq_some_iff.mp h with ⟨a, ha, hc⟩
  rcases Option.bind_eq_some_iff.mp ha with ⟨r, hr, hra⟩
  cases r with
  | error e => cases hra
  | ok answer =>
      cases hra
      exact ⟨a, hr, hc⟩

/-- Two calls that begin together. -/
def World.race (w : World) {α β : Type} (p : Call α) (q : Call β) (schedule : List Bool) :
    World :=
  { w with
    db := (raceOf schedule p q w.db).2.2
    calls := w.calls ++ [⟨α, (raceOf schedule p q w.db).1⟩,
      ⟨β, (raceOf schedule p q w.db).2.1⟩] }

section Race

variable {α β : Type}

theorem World.next_run (p : Call α) (w : World) (before after : List Running)
    (hcalls : w.calls = before ++ ⟨α, p⟩ :: after) :
    exists more, Run World.Step w more
      { w with
        db := (nextOf p w.db).2
        calls := before ++ ⟨α, (nextOf p w.db).1⟩ :: after } := by
  cases p with
  | done r =>
      cases w with
      | mk db handles calls =>
          change calls = _ at hcalls
          subst hcalls
          exact ⟨[], Run.nil _⟩
  | call tx next =>
      have hadvance : Program.Advance (fun _ => True) (Program.call tx next) w.db
          (next (tx.commit w.db).1) (tx.commit w.db).2 := by
        rcases tx.commit_cases w.db with ⟨b, t, htx, hcommit⟩ | ⟨e, htx, hcommit⟩
        · rw [hcommit]
          exact Program.Advance.commit htx
        · rw [hcommit]
          exact Program.Advance.raise htx
      exact ⟨_, Run.cons (World.Step.advance hcalls hadvance) (Run.nil _)⟩

theorem World.race_run (schedule : List Bool) : forall (p : Call α) (q : Call β) (w : World)
    (before : List Running), w.calls = before ++ [⟨α, p⟩, ⟨β, q⟩] ->
    exists more, Run World.Step w more
      { w with
        db := (raceOf schedule p q w.db).2.2
        calls := before ++ [⟨α, (raceOf schedule p q w.db).1⟩,
          ⟨β, (raceOf schedule p q w.db).2.1⟩] } := by
  induction schedule with
  | nil =>
      intro p q w before hcalls
      cases w with
      | mk db handles calls =>
          change calls = _ at hcalls
          subst hcalls
          exact ⟨[], Run.nil _⟩
  | cons first schedule ih =>
      intro p q w before hcalls
      cases first with
      | true =>
          rcases World.next_run p w before [⟨β, q⟩] hcalls with ⟨one, hone⟩
          rcases ih (nextOf p w.db).1 q { w with
            db := (nextOf p w.db).2
            calls := before ++ [⟨α, (nextOf p w.db).1⟩, ⟨β, q⟩] } before rfl with ⟨more, hmore⟩
          exact ⟨_, hone.append hmore⟩
      | false =>
          rcases World.next_run q w (before ++ [⟨α, p⟩]) []
            (by rw [hcalls, List.append_assoc]; rfl) with ⟨one, hone⟩
          rcases ih p (nextOf q w.db).1 { w with
            db := (nextOf q w.db).2
            calls := (before ++ [⟨α, p⟩]) ++ [⟨β, (nextOf q w.db).1⟩] } before
            (by rw [List.append_assoc]; rfl) with ⟨more, hmore⟩
          exact ⟨_, hone.append hmore⟩

theorem World.Runs.race {stages : List (Stage World Event)} {w : World}
    (h : World.Runs stages w) {p : Call α} {q : Call β} (hp : Method AnyDecision p)
    (hq : Method AnyDecision q) (schedule : List Bool) :
    exists all x y, World.Runs all (w.race p q schedule) ∧ x ∈ all ∧ y ∈ all ∧
      Begins w.calls.length p x ∧ Begins (w.calls.length + 1) q y := by
  rcases h with ⟨ids, hrun⟩
  have hfirst := @World.Step.start w α p hp
  have hsecond := @World.Step.start { w with calls := w.calls ++ [⟨α, p⟩] } β q hq
  rcases World.race_run schedule p q { w with calls := (w.calls ++ [⟨α, p⟩]) ++ [⟨β, q⟩] }
    w.calls (by rw [List.append_assoc]; rfl) with ⟨more, hmore⟩
  refine ⟨stages ++ _ :: _ :: more, _, _,
    ⟨ids, hrun.append (Run.cons hfirst (Run.cons hsecond hmore))⟩,
    List.mem_append_right _ List.mem_cons_self,
    List.mem_append_right _ (List.mem_cons_of_mem _ List.mem_cons_self), ⟨rfl, by simp⟩, ?_⟩
  exact ⟨by simp, by simp⟩

theorem World.race_ended (w : World) (p : Call α) (q : Call β) (schedule : List Bool) :
    (forall r, resultOf (raceOf schedule p q w.db).1 = some r ->
      (w.race p q schedule).Ended w.calls.length r) ∧
    forall r, resultOf (raceOf schedule p q w.db).2.1 = some r ->
      (w.race p q schedule).Ended (w.calls.length + 1) r := by
  have hdone : forall {γ : Type} {c : Call γ} {r : Except Failure γ},
      resultOf c = some r -> c = Program.done r := by
    intro γ c r hc
    cases c with
    | done r' =>
        cases hc
        rfl
    | call tx next => cases hc
  unfold World.Ended World.race
  constructor
  · intro r hr
    rw [hdone hr]
    simp
  · intro r hr
    rw [hdone hr]
    simp

end Race

end RefundAgent
