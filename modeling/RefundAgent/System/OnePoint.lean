import RefundAgent.Foundation.Atomic
import RefundAgent.System.Replays
import RefundAgent.System.Undisturbed

/-!
# Calls that act at one point of a run

What a call of a service has read may be out of date when it writes.  The rule below
says when it makes no difference: in every run the call has either changed no table, and
what it returned was right in some state between its beginning and its end, or it has done
all that it did in one transaction, on what was stored at that moment.
-/

namespace RefundAgent

open Foundation

/-!
## What a call may rely on
-/

/-- Rows are only changed with a new version; events and refund requests are only
appended. -/
structure Since (db db' : Database) : Prop where
  later : Later db db'
  refunds : exists more, db'.refunds.rows = db.refunds.rows ++ more
  operationEvents : exists more,
    db'.operations.events.rows = db.operations.events.rows ++ more
  caseEvents : exists more, db'.cases.events.rows = db.cases.events.rows ++ more

theorem Since.refl (db : Database) : Since db db := by
  constructor
  · exact Later.refl db
  · exact ⟨[], (List.append_nil _).symm⟩
  · exact ⟨[], (List.append_nil _).symm⟩
  · exact ⟨[], (List.append_nil _).symm⟩

theorem Since.trans {a b c : Database} (h : Since a b) (h' : Since b c) : Since a c := by
  rcases h.refunds with ⟨n, hn⟩
  rcases h'.refunds with ⟨n', hn'⟩
  rcases h.operationEvents with ⟨m, hm⟩
  rcases h'.operationEvents with ⟨m', hm'⟩
  rcases h.caseEvents with ⟨k, hk⟩
  rcases h'.caseEvents with ⟨k', hk'⟩
  constructor
  · exact h.later.trans h'.later
  · exact ⟨n ++ n', by rw [hn', hn, List.append_assoc]⟩
  · exact ⟨m ++ m', by rw [hm', hm, List.append_assoc]⟩
  · exact ⟨k ++ k', by rw [hk', hk, List.append_assoc]⟩

theorem RefundStep.appends {r : Option RefundRequest} {t u : RefundTable}
    (h : RefundStep r t u) : u.rows = t.rows ++ r.toList := by
  cases h with
  | keep => exact (List.append_nil _).symm
  | create free insert => exact (Table.insert?_eq_some.mp insert).right

theorem Move.since {l : Label} {db db' : Database} (h : Move l db db') : Since db db' := by
  constructor
  · exact h.later
  · exact ⟨_, h.refund.appends⟩
  · exact ⟨_, h.operation.events_eq⟩
  · exact ⟨_, h.case.events_eq⟩

theorem SameTables.since {db db' : Database} (h : SameTables db db') : Since db db' := by
  constructor
  · have hlater := Later.refl db
    constructor
    · rw [h.operations]
      exact hlater.operations
    · rw [h.cases]
      exact hlater.cases
    · rw [h.outbox]
      exact hlater.outbox
    · rw [h.inbox]
      exact hlater.inbox
    · exact h.ids
  · exact ⟨[], by rw [h.refunds, List.append_nil]⟩
  · exact ⟨[], by rw [h.operations, List.append_nil]⟩
  · exact ⟨[], by rw [h.cases, List.append_nil]⟩

/-- An operation that still waits for the customer has never been changed. -/
def Untouched (db : Database) : Prop :=
  forall o, o ∈ db.operations.rows.rows ->
    o.status = OperationRecordStatus.pendingConfirmation -> o.version = 1

theorem Move.untouched {l : Label} {db db' : Database} (h : Move l db db')
    (hdb : Untouched db) : Untouched db' := by
  intro o ho hpending
  have hcombined := h.combined
  have hstep := h.operation
  generalize l.operation = lo at hcombined hstep
  unfold Untouched at hdb
  generalize db.operations = t at hstep hdb
  generalize db'.operations = u at hstep ho
  cases hstep with
  | keep => exact hdb o ho hpending
  | create insert free appended unused new =>
      rw [(Table.insert?_eq_some.mp insert).right] at ho
      rcases List.mem_append.mp ho with ho | ho
      · exact hdb o ho hpending
      · rw [List.mem_singleton.mp ho]
        exact new.version
  | update get free appended unused change =>
      rcases Table.mem_put ho with rfl | ⟨ho, _⟩
      · exact absurd hpending hcombined.not_pending
      · exact hdb o ho hpending

structure Steady (db : Database) : Prop where
  sound : Sound db
  untouched : Untouched db

theorem World.Runs.steady {stages : List (Stage World Event)} {w : World}
    (h : World.Runs stages w) : forall x, x ∈ stages -> Steady x.before.db := by
  intro x hx
  have hkept := h.kept (I := Untouched) (fun ids o ho => (by cases ho))
    (fun l db db' hmove _ hdb => hmove.untouched hdb)
  exact ⟨(h.good.right x hx).before.sound, (hkept.right x hx).left⟩

/-!
## The stages of a call
-/

open Classical in
/-- The stages that make a transaction of the call in the given place. -/
noncomputable def ownStages (i : Nat) (stages : List (Stage World Event)) :
    List (Stage World Event) :=
  stages.filter fun x => decide (Advances i x)

theorem mem_ownStages {i : Nat} {stages : List (Stage World Event)}
    {x : Stage World Event} : x ∈ ownStages i stages ↔ x ∈ stages ∧ Advances i x := by
  simp [ownStages]

theorem ownStages_concat {i : Nat} {past : List (Stage World Event)}
    {x : Stage World Event} (h : Advances i x) :
    ownStages i (past ++ [x]) = ownStages i past ++ [x] := by
  simp [ownStages, h]

theorem ownStages_concat_other {i : Nat} {past : List (Stage World Event)}
    {x : Stage World Event} (h : ¬Advances i x) :
    ownStages i (past ++ [x]) = ownStages i past := by
  simp [ownStages, h]

theorem ownStages_eq_nil {i : Nat} {stages : List (Stage World Event)}
    (h : forall x, x ∈ stages -> ¬Advances i x) : ownStages i stages = [] := by
  simp only [ownStages, List.filter_eq_nil_iff, decide_eq_true_eq]
  exact h

/-- What the call in the given place has done by now and what is left of it. -/
def TracedAt (i : Nat) {α : Type} (p : Call α) (past : List (Stage World Event))
    (w : World) : Prop :=
  exists q : Call α, w.calls[i]? = some ⟨α, q⟩ ∧
    Program.Trace (fun _ => True) p ((ownStages i past).map Stage.dbs) q

theorem TracedAt.step {past : List (Stage World Event)} {x : Stage World Event} {i : Nat}
    {α : Type} {p : Call α} (h : TracedAt i p past x.before)
    (hstep : World.Step x.before x.event x.after) : TracedAt i p (past ++ [x]) x.after := by
  rcases h with ⟨q, hnow, htrace⟩
  rcases hstep.place hnow with hsame | ⟨q', hnow', hadvance⟩
  · refine ⟨q, hsame, ?_⟩
    rw [ownStages_concat_other]
    · exact htrace
    · rintro ⟨r, hr, hr'⟩
      rw [hnow] at hr
      rw [hsame, hr] at hr'
      exact hr' rfl
  · have hadv : Advances i x := by
      refine ⟨_, hnow, ?_⟩
      rw [hnow']
      intro heq
      have heq : (⟨α, q'⟩ : Running) = ⟨α, q⟩ := Option.some.inj heq
      cases heq
      exact hadvance.ne rfl
    refine ⟨q', hnow', ?_⟩
    rw [ownStages_concat hadv, List.map_append]
    exact htrace.snoc hadvance

theorem World.Runs.ended_trace {stages : List (Stage World Event)} {w : World}
    (h : World.Runs stages w) {x : Stage World Event} (hx : x ∈ stages) {i : Nat}
    {α : Type} {p : Call α} (hbegins : Begins i p x) {r : Except Failure α}
    (hended : w.Ended i r) :
    Program.Returns (fun _ => True) p ((ownStages i stages).map Stage.dbs) r := by
  rcases h with ⟨ids, hrun⟩
  have hkept := hrun.history (C := fun _ => True) (l := [])
    (I := fun past w => (forall y, y ∈ past -> forall k, Advances k y -> k < w.calls.length) ∧
      ((exists y, y ∈ past ∧ Begins i p y) -> TracedAt i p past w))
    ?_ ⟨fun y hy => (by cases hy), fun hy => (by rcases hy with ⟨y, hy, _⟩; cases hy)⟩
    (fun _ _ => trivial)
  · rcases hkept.right ⟨x, hx, hbegins⟩ with ⟨q, hnow, htrace⟩
    unfold World.Ended at hended
    rw [hended] at hnow
    have hnow : (⟨α, Program.done r⟩ : Running) = ⟨α, q⟩ := Option.some.inj hnow
    cases hnow
    exact htrace
  · rintro past y _ hstep ⟨hplaces, htraced⟩
    have hplaces' : forall z, z ∈ past ++ [y] -> forall k, Advances k z ->
        k < y.before.calls.length := by
      intro z hz k hk
      rcases List.mem_append.mp hz with hz | hz
      · exact hplaces z hz k hk
      · rw [List.mem_singleton.mp hz] at hk
        rcases hk with ⟨r, hr, _⟩
        exact (List.getElem?_eq_some_iff.mp hr).choose
    constructor
    · intro z hz k hk
      exact Nat.lt_of_lt_of_le (hplaces' z hz k hk) hstep.calls_length
    · rintro ⟨z, hz, hbegin⟩
      rcases List.mem_append.mp hz with hz | hz
      · exact (htraced ⟨z, hz, hbegin⟩).step hstep
      · -- the call begins now and has done nothing yet
        rw [List.mem_singleton.mp hz] at hbegin
        refine ⟨p, hbegin.right, ?_⟩
        rw [ownStages_eq_nil]
        · exact Program.Trace.nil p
        · intro u hu hadv
          have hlt := hplaces' u hu i hadv
          rw [hbegin.left] at hlt
          exact absurd hlt (Nat.lt_irrefl i)

/-!
## Calls within calls
-/

/--
The call in the given place has made the call `p`: the stages `own` are some of its
transactions, one after the other, and they are a run of `p` that returns `r`.  The stage
`x` is the last one of the place before them, or the one in which it begins.
-/
structure Makes (stages : List (Stage World Event)) (i : Nat) {α : Type} (p : Call α)
    (x : Stage World Event) (own : List (Stage World Event)) (r : Except Failure α) :
    Prop where
  entered : x ∈ stages
  place : exists before after, ownStages i stages = before ++ own ++ after ∧
    (before.getLast? = some x ∨
      before = [] ∧ exists (β : Type) (q : Call β), Begins i q x)
  returns : Program.Returns (fun _ => True) p (own.map Stage.dbs) r

/-- A call that has ended has made itself. -/
theorem World.Runs.makes {stages : List (Stage World Event)} {w : World}
    (h : World.Runs stages w) {x : Stage World Event} (hx : x ∈ stages) {i : Nat}
    {α : Type} {p : Call α} (hbegins : Begins i p x) {r : Except Failure α}
    (hended : w.Ended i r) : Makes stages i p x (ownStages i stages) r where
  entered := hx
  place := ⟨[], [], by simp, Or.inr ⟨rfl, α, p, hbegins⟩⟩
  returns := h.ended_trace hx hbegins hended

namespace Makes

variable {stages own first rest : List (Stage World Event)} {i j : Nat} {α β : Type}
  {p : Call α} {x x' : Stage World Event} {r : Except Failure α}

theorem mem (h : Makes stages i p x own r) {y : Stage World Event} (hy : y ∈ own) :
    y ∈ stages ∧ Advances i y := by
  rcases h.place with ⟨before, after, hown, _⟩
  rw [← mem_ownStages, hown]
  exact List.mem_append_left _ (List.mem_append_right _ hy)

theorem sublist (h : Makes stages i p x own r) : own.Sublist stages := by
  rcases h.place with ⟨before, after, hown, _⟩
  have hpiece : own.Sublist (ownStages i stages) := by
    rw [hown]
    exact (List.sublist_append_right before own).trans (List.sublist_append_left _ after)
  exact hpiece.trans List.filter_sublist

/-- Calls in different places have no transaction in common. -/
theorem apart {w : World} (hrun : World.Runs stages w) (h : Makes stages i p x own r)
    {q : Call β} {own' : List (Stage World Event)} {r' : Except Failure β}
    (h' : Makes stages j q x' own' r') (hne : i ≠ j) : forall y, y ∈ own -> y ∉ own' := by
  intro y hy hy'
  rcases h.mem hy with ⟨hmem, hadvances⟩
  exact hne ((hrun.good.right y hmem).step.advances_unique hadvances (h'.mem hy').right)

theorem left (h : Makes stages i p x (first ++ rest) r) {q : Call β} {r' : Except Failure β}
    (hq : Program.Returns (fun _ => True) q (first.map Stage.dbs) r') :
    Makes stages i q x first r' := by
  rcases h.place with ⟨before, after, hown, hx⟩
  exact ⟨h.entered, ⟨before, rest ++ after, by rw [hown]; simp, hx⟩, hq⟩

theorem right (h : Makes stages i p x (first ++ rest) r) :
    exists x', forall {γ : Type} {q : Call γ} {r' : Except Failure γ},
      Program.Returns (fun _ => True) q (rest.map Stage.dbs) r' ->
        Makes stages i q x' rest r' := by
  rcases h.place with ⟨before, after, hown, hx⟩
  cases hlast : first.getLast? with
  | none =>
      have hnil : first = [] := List.getLast?_eq_none_iff.mp hlast
      exact ⟨x, fun hq => ⟨h.entered, ⟨before, after, by rw [hown, hnil]; simp, hx⟩, hq⟩⟩
  | some y =>
      have hy : y ∈ first ++ rest :=
        List.mem_append_left _ (List.mem_of_getLast? hlast)
      refine ⟨y, fun hq => ⟨(h.mem hy).left, ⟨before ++ first, after, by rw [hown]; simp,
        Or.inl ?_⟩, hq⟩⟩
      rw [List.getLast?_append, hlast]
      rfl

theorem of_bind {q : Call β} {f : β -> Call α} (h : Makes stages i (q >>= f) x own r) :
    (exists b first x' rest, own = first ++ rest ∧ Makes stages i q x first (Except.ok b) ∧
      Makes stages i (f b) x' rest r) ∨
    (exists e, Makes stages i q x own (Except.error e) ∧ r = Except.error e) := by
  rcases h.returns.of_bind with ⟨b, made, more, hq, hf, hmap⟩ | ⟨e, hq, hr⟩
  · rcases List.map_eq_append_iff.mp hmap with ⟨first, rest, rfl, rfl, rfl⟩
    rcases h.right with ⟨x', hright⟩
    exact Or.inl ⟨b, first, x', rest, rfl, h.left hq, hright hf⟩
  · exact Or.inr ⟨e, ⟨h.entered, h.place, hq⟩, hr⟩

theorem of_rescue {handler : Failure -> Option (Call α)}
    (h : Makes stages i (p.rescue handler) x own r) :
    Makes stages i p x own r ∨ exists e q first x' rest, own = first ++ rest ∧
      Makes stages i p x first (Except.error e) ∧ handler e = some q ∧
      Makes stages i q x' rest r := by
  rcases h.returns.of_rescue with hp | ⟨e, q, made, more, hp, hq, hmore, hmap⟩
  · exact Or.inl ⟨h.entered, h.place, hp⟩
  · rcases List.map_eq_append_iff.mp hmap with ⟨first, rest, rfl, rfl, rfl⟩
    rcases h.right with ⟨x', hright⟩
    exact Or.inr ⟨e, q, first, x', rest, rfl, h.left hp, hq, hright hmore⟩

end Makes

/-!
## The rule
-/

/-- The answers of a call that changes nothing, and the actions of one that does. -/
structure Atomic {α : Type} (p : Call α) (db : Database) (N : α -> Database -> Prop)
    (S : α -> Database -> Database -> Prop) : Prop where
  judged : Program.AtOnce Steady Since SameTables (fun _ => True) N S p db

/-- The first part of a call, which only looks. -/
abbrev Looks {α : Type} (p : Call α) (db : Database) (P : α -> Database -> Prop) : Prop :=
  Atomic p db P Program.NoAct

namespace Atomic

variable {α β : Type} {p : Call α} {db : Database} {N N' : α -> Database -> Prop}
  {S S' : α -> Database -> Database -> Prop}

theorem mono (h : Atomic p db N S) (hN : forall a t, N a t -> N' a t)
    (hS : forall a t u, S a t u -> S' a t u) : Atomic p db N' S' :=
  ⟨Program.AtOnce.mono hN hS h.judged⟩

theorem since (h : Atomic p db N S) :
    Atomic p db (fun a t => Since db t ∧ N a t) (fun a t u => Since db t ∧ S a t u) :=
  ⟨Program.AtOnce.since Since.refl (fun h h' => h.trans h') (fun h => h.since) h.judged⟩

theorem pure {a : α} (h : N a db) : Atomic (Pure.pure a : Call α) db N S :=
  ⟨Program.AtOnce.pure h⟩

theorem raise {e : Failure} : Atomic (Program.raise e : Call α) db N S :=
  ⟨Program.AtOnce.raise e db⟩

theorem bind {P : β -> Database -> Prop} {q : Call β} {f : β -> Call α}
    (h : Looks q db P) (hf : forall b t, Since db t -> P b t -> Atomic (f b) t N S) :
    Atomic (q >>= f) db N S := by
  have hbind := Program.AtOnce.bind (N := N) (S := S) (f := f)
    (P := fun b t => Since db t ∧ P b t) (fun b t hb => (hf b t hb.left hb.right).judged)
    (h.since.judged.mono (fun _ _ h => h) (fun _ _ _ h => h.right))
  exact ⟨hbind⟩

theorem compute {r : Except Failure β} {f : β -> Call α}
    (h : forall b, r = Except.ok b -> Atomic (f b) db N S) :
    Atomic (Program.done r >>= f) db N S :=
  ⟨Program.AtOnce.compute fun b hb => (h b hb).judged⟩

theorem require {c : Prop} [Decidable c] {e : Failure} {f : Unit -> Call α}
    (h : c -> Atomic (f ()) db N S) : Atomic (Program.require c e >>= f) db N S :=
  ⟨Program.AtOnce.require fun hc => (h hc).judged⟩

theorem ite {c : Prop} [Decidable c] {q : Call α} (hp : c -> Atomic p db N S)
    (hq : ¬c -> Atomic q db N S) : Atomic (if c then p else q) db N S :=
  ⟨Program.AtOnce.ite (fun hc => (hp hc).judged) (fun hc => (hq hc).judged)⟩

theorem look {tx : Tx α} (h : forall t, Since db t -> Steady t -> forall a u,
    tx t = Except.ok (a, u) -> u = t ∧ N a t) : Atomic (Program.perform tx) db N S := by
  refine ⟨Program.AtOnce.look fun t hdt ht a u hu => ?_⟩
  rcases h t hdt ht a u hu with ⟨rfl, hN⟩
  exact ⟨SameTables.refl u, hN⟩

theorem write {tx : Tx β} {g : β -> α} (h : forall t, Since db t -> Steady t ->
    forall b u, tx t = Except.ok (b, u) -> S (g b) t u) :
    Atomic (Program.perform tx >>= fun b => (Pure.pure (g b) : Call α)) db N S :=
  ⟨Program.AtOnce.write h⟩

theorem transact {tx : Tx α} (h : forall t, Since db t -> Steady t -> forall a u,
    tx t = Except.ok (a, u) -> (u = t ∧ N a t) ∨ S a t u) :
    Atomic (Program.perform tx) db N S := by
  refine ⟨Program.AtOnce.transact fun t hdt ht a u hu => ?_⟩
  rcases h t hdt ht a u hu with ⟨rfl, hN⟩ | hS
  · exact Or.inl ⟨SameTables.refl u, hN⟩
  · exact Or.inr hS

theorem rescue {handler : Failure -> Option (Call α)} (h : Atomic p db N S)
    (hcatch : forall e q t, handler e = some q -> Atomic q t N S) :
    Atomic (p.rescue handler) db N S :=
  ⟨Program.AtOnce.rescue (fun e q t hq => (hcatch e q t hq).judged) h.judged⟩

theorem draw {f : UUID -> Call α} (h : forall id t, Since db t -> Atomic (f id) t N S) :
    Atomic (freshId >>= f) db N S := by
  refine Atomic.bind (P := fun _ _ => True) ⟨Program.AtOnce.look ?_⟩ fun id t ht _ => h id t ht
  intro t _ _ id u hu
  rw [newId_eq_ok] at hu
  rw [← hu.right]
  exact ⟨SameTables.advance t, trivial⟩

end Atomic

/-!
## Runs
-/

section Ended

variable {α : Type}

/-- No transaction of the call has changed a table, and what it has returned was right in a
state between its beginning and its end. -/
structure Answers (own : List (Stage World Event)) (x : Stage World Event)
    (N : α -> Database -> Prop) (r : Except Failure α) : Prop where
  idle : forall y, y ∈ own -> SameTables y.before.db y.after.db
  right : forall a, r = Except.ok a -> exists y, (y = x ∨ y ∈ own) ∧ N a y.after.db

/-- The last transaction of the call has done what the call returns, and no other one has
changed a table. -/
def Acts (own : List (Stage World Event)) (S : α -> Database -> Database -> Prop)
    (r : Except Failure α) : Prop :=
  exists first y a, own = first ++ [y] ∧ r = Except.ok a ∧
    (forall z, z ∈ first -> SameTables z.before.db z.after.db) ∧
    S a y.before.db y.after.db

abbrev AnswersIn (stages : List (Stage World Event)) (i : Nat) (x : Stage World Event)
    (N : α -> Database -> Prop) (r : Except Failure α) : Prop :=
  Answers (ownStages i stages) x N r

abbrev ActsIn (stages : List (Stage World Event)) (i : Nat)
    (S : α -> Database -> Database -> Prop) (r : Except Failure α) : Prop :=
  Acts (ownStages i stages) S r

theorem World.Runs.since_stages {stages : List (Stage World Event)} {w : World}
    (h : World.Runs stages w) :
    (forall y, y ∈ stages -> Since y.before.db y.after.db) ∧
      stages.Pairwise fun y z => Since y.after.db z.before.db := by
  have hstage : forall y, y ∈ stages -> Since y.before.db y.after.db := fun y hy =>
    (h.related Since.refl (fun h h' => h.trans h') (fun _ _ _ hm => hm.since) hy).left
  rcases h with ⟨ids, hrun⟩
  have htrans : forall {a b c : World}, Since a.db b.db -> Since b.db c.db ->
      Since a.db c.db := fun h h' => h.trans h'
  exact ⟨hstage, hrun.ordered (R := fun w w' => Since w.db w'.db)
    (fun w => Since.refl w.db) htrans hstage⟩

theorem World.Runs.since_final {stages : List (Stage World Event)} {w : World}
    (h : World.Runs stages w) {x : Stage World Event} (hx : x ∈ stages) :
    Since x.after.db w.db :=
  (h.related Since.refl (fun h h' => h.trans h') (fun _ _ _ hm => hm.since) hx).right

theorem World.Runs.amid {stages : List (Stage World Event)} {w : World}
    (h : World.Runs stages w) {own : List (Stage World Event)} (hown : own.Sublist stages)
    {db : Database} (hfirst : forall y, y ∈ own -> Since db y.before.db) :
    Program.Amid Steady Since db (own.map Stage.dbs) := by
  apply Program.Amid.of_pairwise
  · exact List.forall_mem_map.mpr hfirst
  · exact List.pairwise_map.mpr (h.since_stages.right.sublist hown)
  · exact List.forall_mem_map.mpr fun y hy => h.steady y (hown.subset hy)

theorem World.Runs.first_seen {stages : List (Stage World Event)} {w : World}
    (h : World.Runs stages w) {own : List (Stage World Event)} (hown : own.Sublist stages)
    (x : Stage World Event) :
    exists db, (forall y, y ∈ own -> Since db y.before.db) ∧ (own = [] -> db = x.after.db) := by
  cases own with
  | nil => exact ⟨x.after.db, fun y hy => (by cases hy), fun _ => rfl⟩
  | cons first rest =>
      refine ⟨first.before.db, ?_, fun hnil => (by cases hnil)⟩
      rcases h.since_stages with ⟨hstage, hordered⟩
      have hfirst := (List.pairwise_cons.mp (hordered.sublist hown)).left
      rw [List.forall_mem_cons]
      constructor
      · exact Since.refl _
      · intro y hy
        exact (hstage first (hown.subset List.mem_cons_self)).trans (hfirst y hy)

theorem World.Runs.made_at_one_point {stages : List (Stage World Event)} {w : World}
    (h : World.Runs stages w) {i : Nat} {p : Call α} {x : Stage World Event}
    {own : List (Stage World Event)} {r : Except Failure α} (hmade : Makes stages i p x own r)
    {N : α -> Database -> Prop} {S : α -> Database -> Database -> Prop}
    (hp : forall db, Atomic p db N S) : Answers own x N r ∨ Acts own S r := by
  rcases h.first_seen hmade.sublist x with ⟨db, hfirst, hnone⟩
  rcases Program.AtOnce.returned SameTables.refl (hp db).judged hmade.returns
    (h.amid hmade.sublist hfirst) with hanswer | ⟨first, a, value, hlist, hr, hidle, hact⟩
  · left
    constructor
    · exact List.forall_mem_map.mp hanswer.left
    · intro value hvalue
      have hright := hanswer.right value hvalue
      rcases Program.lastSeen_eq db (own.map Stage.dbs) with
        ⟨hnil, hlast⟩ | ⟨a, ha, hlast⟩
      · rw [hlast, hnone (List.map_eq_nil_iff.mp hnil)] at hright
        exact ⟨x, Or.inl rfl, hright⟩
      · rw [hlast] at hright
        rcases List.mem_map.mp ha with ⟨y, hy, rfl⟩
        exact ⟨y, Or.inr hy, hright⟩
  · right
    rcases List.map_eq_append_iff.mp hlist with ⟨before, last, hsplit, rfl, hmap⟩
    rcases List.map_eq_singleton_iff.mp hmap with ⟨y, rfl, rfl⟩
    exact ⟨before, y, value, hsplit, hr, List.forall_mem_map.mp hidle, hact⟩

theorem World.Runs.at_one_point {stages : List (Stage World Event)} {w : World}
    (h : World.Runs stages w) {x : Stage World Event} (hx : x ∈ stages) {i : Nat}
    {p : Call α} (hbegins : Begins i p x) {r : Except Failure α} (hended : w.Ended i r)
    {N : α -> Database -> Prop} {S : α -> Database -> Database -> Prop}
    (hp : forall db, Atomic p db N S) :
    AnswersIn stages i x N r ∨ ActsIn stages i S r :=
  h.made_at_one_point (h.makes hx hbegins hended) hp

end Ended

end RefundAgent
