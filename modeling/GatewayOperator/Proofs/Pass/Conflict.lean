import GatewayOperator.Proofs.Children.Foreign
import GatewayOperator.Proofs.Pass.Settled
import GatewayOperator.Proofs.Store.Versions

namespace GatewayOperator

open VersionedStore

-- A call with its answer, and what the store was right before and right after it
structure Exchange where
  before : VersionedStore
  call : Call
  reply : call.Reply
  after : VersionedStore

-- The name and the version of an object are not among the fields that passes write.
theorem Kind.Keeps.nameOf_eq {k : Kind} {before after : k.Object} (h : k.Keeps before after) :
    k.nameOf after = k.nameOf before := by
  rw [Kind.nameOf, h.metadata]
  rfl

theorem Kind.Keeps.version?_eq {k : Kind} {before after : k.Object} (h : k.Keeps before after) :
    k.version? after = k.version? before := by
  rw [Kind.version?, h.metadata]
  rfl

-- A replace that loses nothing: right before it the store holds the object that was fetched for it,
-- and the new object, which is there with a new version afterwards, keeps what others have put into
-- that one.
def BasedOnStored (exchanges : List Exchange) (before : VersionedStore) (kind : Kind)
    (ns : String) (object : kind.Object) (after : VersionedStore) : Prop :=
  ∃ (stored : kind.Object) (fetched : VersionedStore) (version : String),
    before.objects ⟨kind, ns, kind.nameOf object⟩ = some stored ∧
    ⟨fetched, .get kind ns (kind.nameOf object), .ok (some stored), fetched⟩ ∈ exchanges ∧
    kind.version? object = kind.version? stored ∧ kind.Keeps stored object ∧
    version ∉ before.issued ∧
    after.objects ⟨kind, ns, kind.nameOf object⟩ = some (kind.withVersion object version)

theorem BasedOnStored.mono {exchanges more : List Exchange} {before after : VersionedStore}
    {kind : Kind} {ns : String} {object : kind.Object} (hsubset : exchanges ⊆ more)
    (h : BasedOnStored exchanges before kind ns object after) :
    BasedOnStored more before kind ns object after := by
  obtain ⟨stored, fetched, version, hstored, hfetched, hrest⟩ := h
  exact ⟨stored, fetched, version, hstored, hsubset hfetched, hrest⟩

-- An exchange that is about no child and replaces nothing
structure Exchange.Apart (x : Exchange) : Prop where
  kind : ∀ key ∈ x.call.key?, key.kind = .gateway
  operation : x.call.point.operation ≠ .replace

namespace Program

variable {α β : Type} {s t : VersionedStore} {exchanges : List Exchange}

-- The runs of a program from one store to another, with what others do before and after each call:
-- the exchanges of the program, first to last, and its result
inductive Among : Program α → VersionedStore → List Exchange → α → VersionedStore → Prop where
  | done {a : α} {s t : VersionedStore} (h : Others s t) : Among (.done a) s [] a t
  | ask {call : Call} {next : call.Reply → Program α} {s t u v : VersionedStore}
      {reply : call.Reply} {exchanges : List Exchange} {a : α} (h : Others s t)
      (hanswer : t.Answers call reply u) (hnext : Among (next reply) u exchanges a v) :
      Among (.ask call next) s (⟨t, call, reply, u⟩ :: exchanges) a v

theorem Among.eq_of_pure {a b : α} (h : Among (pure a) s exchanges b t) :
    exchanges = [] ∧ b = a := by
  cases h with
  | done => exact ⟨rfl, rfl⟩

theorem Among.exists_of_call_bind {c : Call} {f : c.Reply → Program α} {a : α}
    (h : Among (call c >>= f) s exchanges a t) :
    ∃ u reply v rest, exchanges = ⟨u, c, reply, v⟩ :: rest ∧ Others s u ∧
      u.Answers c reply v ∧ Among (f reply) v rest a t := by
  cases h with
  | ask h hanswer hnext => exact ⟨_, _, _, _, rfl, h, hanswer, hnext⟩

theorem Among.exists_of_bind {p : Program α} {f : α → Program β} {b : β}
    (h : Among (p >>= f) s exchanges b t) :
    ∃ first a u rest, exchanges = first ++ rest ∧ Among p s first a u ∧
      Among (f a) u rest b t := by
  induction p generalizing s exchanges with
  | done a => exact ⟨[], a, s, exchanges, rfl, .done .refl, h⟩
  | ask c next ih =>
    obtain ⟨u, reply, v, more, rfl, hothers, hanswer, hmore⟩ := exists_of_call_bind (c := c)
      (f := fun reply => next reply >>= f) h
    obtain ⟨first, a, w, rest, rfl, hfirst, hrest⟩ := ih reply hmore
    exact ⟨_, a, w, rest, rfl, .ask hothers hanswer hfirst, hrest⟩

theorem Among.of_others {p : Program α} {a : α} {u : VersionedStore} (hothers : Others s u)
    (h : Among p u exchanges a t) : Among p s exchanges a t := by
  cases h with
  | done h => exact .done (hothers.trans h)
  | ask h hanswer hnext => exact .ask (hothers.trans h) hanswer hnext

theorem Among.bind {p : Program α} {f : α → Program β} {first rest : List Exchange} {a : α}
    {b : β} {u : VersionedStore} (h : Among p s first a u) (hrest : Among (f a) u rest b t) :
    Among (p >>= f) s (first ++ rest) b t := by
  induction h with
  | done h => exact hrest.of_others h
  | ask hothers hanswer _ ih => exact .ask hothers hanswer (ih hrest)

-- To all others a whole run is a number of changes, those of a pass too.
theorem Among.others {p : Program α} {a : α} (h : Among p s exchanges a t) : Others s t := by
  induction h with
  | done h => exact h
  | ask h hanswer _ ih => exact (h.trans hanswer.others).trans ih

end Program

namespace Stage

variable {st : Stage} {ns : String} {s t : VersionedStore} {exchanges : List Exchange}

-- All that a stage can say and be told, with its result. What it replaces is the object that is
-- still in the store as the stage has fetched it.
inductive Talk (st : Stage) (ns : String) :
    (exchanges : List Exchange) → (result : Except ApiError Applied) → Prop where
  | getRefused {s : VersionedStore} {e : ApiError} :
      Talk st ns [⟨s, .get st.kind ns st.name, .error e, s⟩] (.error e)
  | createRefused {s t : VersionedStore} {e : ApiError} :
      Talk st ns
        [⟨s, .get st.kind ns st.name, .ok none, s⟩, ⟨t, .create st.kind ns st.desired, .error e, t⟩]
        (.error e)
  | created {s t u : VersionedStore} :
      Talk st ns
        [⟨s, .get st.kind ns st.name, .ok none, s⟩, ⟨t, .create st.kind ns st.desired, .ok (), u⟩]
        (.ok .created)
  | unchanged {s : VersionedStore} {existing : st.kind.Object} :
      Talk st ns [⟨s, .get st.kind ns st.name, .ok (some existing), s⟩] (.ok .unchanged)
  | replaceRefused {s t : VersionedStore} {existing : st.kind.Object} {e : ApiError}
      (hname : st.kind.nameOf (st.update existing) = st.name) :
      Talk st ns
        [⟨s, .get st.kind ns st.name, .ok (some existing), s⟩,
         ⟨t, .replace st.kind ns (st.update existing), .error e, t⟩]
        (.error e)
  | updated {s t u : VersionedStore} {existing : st.kind.Object} {version : String}
      (hname : st.kind.nameOf (st.update existing) = st.name)
      (hstored : t.objects ⟨st.kind, ns, st.kind.nameOf (st.update existing)⟩ = some existing)
      (hfresh : version ∉ t.issued)
      (hafter : u.objects ⟨st.kind, ns, st.kind.nameOf (st.update existing)⟩ =
        some (st.kind.withVersion (st.update existing) version)) :
      Talk st ns
        [⟨s, .get st.kind ns st.name, .ok (some existing), s⟩,
         ⟨t, .replace st.kind ns (st.update existing), .ok (), u⟩]
        (.ok .updated)

-- The version that comes with an update is that of the object that was fetched: what was put there
-- in the meantime has another one.
theorem talk_of_among (hupdate : ∀ existing, st.kind.Keeps existing (st.update existing))
    {result : Except ApiError Applied} (h : (st.apply ns).Among s exchanges result t) :
    st.Talk ns exchanges result := by
  obtain ⟨u, reply, v, rest, rfl, -, hanswer, hrest⟩ := h.exists_of_call_bind
  cases hanswer with
  | @refused _ e =>
    obtain ⟨rfl, rfl⟩ := Program.Among.eq_of_pure (a := Except.error e) hrest
    exact .getRefused
  | found =>
    cases hfound : u.objects ⟨st.kind, ns, st.name⟩ with
    | none =>
      rw [hfound] at hrest
      obtain ⟨w, reply, x, more, rfl, -, hanswer, hend⟩ := hrest.exists_of_call_bind
      cases hanswer with
      | @refused _ e =>
        obtain ⟨rfl, rfl⟩ := Program.Among.eq_of_pure (a := Except.error e) hend
        exact .createRefused
      | created =>
        obtain ⟨rfl, rfl⟩ := Program.Among.eq_of_pure (a := Except.ok Applied.created) hend
        exact .created
    | some existing =>
      rw [hfound] at hrest
      have hname : st.kind.nameOf (st.update existing) = st.name := by
        have hkey : st.kind.nameOf existing = st.name :=
          congrArg ObjectKey.name (u.keyed ⟨st.kind, ns, st.name⟩ existing hfound)
        rw [← hkey, (hupdate existing).nameOf_eq]
      simp only at hrest
      split at hrest
      · obtain ⟨w, reply, x, more, rfl, hothers, hanswer, hend⟩ := hrest.exists_of_call_bind
        cases hanswer with
        | @refused _ e =>
          obtain ⟨rfl, rfl⟩ := Program.Among.eq_of_pure (a := Except.error e) hend
          exact .replaceRefused hname
        | replaced hkey hstored hversion hfresh =>
          obtain ⟨rfl, rfl⟩ := Program.Among.eq_of_pure (a := Except.ok Applied.updated) hend
          rw [← hname] at hfound
          cases hothers.evolves.eq_of_version hfound hstored
            (hversion.symm.trans (hupdate existing).version?_eq)
          exact .updated hname hstored hfresh (objects_write_self w hkey _)
      · obtain ⟨rfl, rfl⟩ := Program.Among.eq_of_pure (a := Except.ok Applied.unchanged) hrest
        exact .unchanged

variable {result : Except ApiError Applied}

theorem Talk.key? (h : st.Talk ns exchanges result) :
    ∀ x ∈ exchanges, x.call.key? = some (st.key ns) := by
  cases h with
  | getRefused | unchanged => simp [Call.key?, key]
  | createRefused | created => simp [Call.key?, key, name]
  | replaceRefused hname | updated hname => simp [Call.key?, key, hname]

-- A refused call is the last one, and the stage has written nothing until then.
theorem Talk.of_refused (h : st.Talk ns exchanges result) {x : Exchange} (hx : x ∈ exchanges)
    {e : ApiError} (hrefused : x.reply = x.call.refuse e) :
    result = .error e ∧ ∀ y ∈ exchanges, y.after = y.before := by
  cases h with
  | getRefused =>
    cases List.mem_singleton.mp hx
    cases hrefused
    exact ⟨rfl, by simp⟩
  | unchanged =>
    cases List.mem_singleton.mp hx
    cases hrefused
  | createRefused | replaceRefused =>
    rcases List.mem_pair.mp hx with rfl | rfl
    · cases hrefused
    · cases hrefused
      exact ⟨rfl, by simp⟩
  | created | updated =>
    rcases List.mem_pair.mp hx with rfl | rfl <;> cases hrefused

theorem Talk.basedOnStored (hupdate : ∀ existing, st.kind.Keeps existing (st.update existing))
    (h : st.Talk ns exchanges result) {before after : VersionedStore} {kind : Kind}
    {ns' : String} {object : kind.Object}
    (hx : ⟨before, .replace kind ns' object, .ok (), after⟩ ∈ exchanges) :
    BasedOnStored exchanges before kind ns' object after := by
  cases h with
  | getRefused | unchanged => cases List.mem_singleton.mp hx
  | createRefused | created | replaceRefused => rcases List.mem_pair.mp hx with hx | hx <;> cases hx
  | @updated s t u existing version hname hstored hfresh hafter =>
    rcases List.mem_pair.mp hx with hx | hx
    · cases hx
    · cases hx
      refine ⟨existing, s, version, hstored, ?_, (hupdate existing).version?_eq, hupdate existing,
        hfresh, hafter⟩
      rw [hname]
      exact List.mem_cons_self

inductive Talks (ns : String) : List Stage → List Exchange → List (Kind × Applied) →
    Option Obstacle → Prop where
  | finished : Talks ns [] [] [] none
  | stopped {st : Stage} {rest : List Stage} {exchanges : List Exchange} {e : ApiError}
      (h : st.Talk ns exchanges (.error e)) :
      Talks ns (st :: rest) exchanges [] (some (.child st.kind e))
  | step {st : Stage} {rest : List Stage} {exchanges more : List Exchange} {applied : Applied}
      {moreApplied : List (Kind × Applied)} {obstacle : Option Obstacle}
      (h : st.Talk ns exchanges (.ok applied)) (hrest : Talks ns rest more moreApplied obstacle) :
      Talks ns (st :: rest) (exchanges ++ more) ((st.kind, applied) :: moreApplied) obstacle

variable {stages : List Stage} {applied : List (Kind × Applied)} {obstacle : Option Obstacle}

theorem talks_of_among
    (hupdate : ∀ st ∈ stages, ∀ existing, st.kind.Keeps existing (st.update existing))
    {outcome : List (Kind × Applied) × Option Obstacle}
    (h : (applyAll ns stages).Among s exchanges outcome t) :
    Talks ns stages exchanges outcome.1 outcome.2 := by
  induction stages generalizing s t exchanges outcome with
  | nil =>
    obtain ⟨rfl, rfl⟩ := h.eq_of_pure
    exact .finished
  | cons st rest ih =>
    obtain ⟨first, result, u, more, rfl, hfirst, hmore⟩ := h.exists_of_bind
    have htalk := talk_of_among (hupdate st List.mem_cons_self) hfirst
    cases result with
    | error e =>
      obtain ⟨rfl, rfl⟩ :=
        Program.Among.eq_of_pure (a := ([], some (Obstacle.child st.kind e))) hmore
      rw [List.append_nil]
      exact .stopped htalk
    | ok applied =>
      obtain ⟨second, later, v, last, rfl, hsecond, hlast⟩ := hmore.exists_of_bind
      obtain ⟨rfl, rfl⟩ :=
        Program.Among.eq_of_pure (a := ((st.kind, applied) :: later.1, later.2)) hlast
      rw [List.append_nil]
      exact .step htalk (ih (fun r hr => hupdate r (List.mem_cons_of_mem _ hr)) hsecond)

theorem Talks.key? (h : Talks ns stages exchanges applied obstacle) :
    ∀ x ∈ exchanges, ∀ key ∈ x.call.key?, key ∈ stages.map fun st => st.key ns := by
  induction h with
  | finished => simp
  | stopped h =>
    intro x hx key hkey
    cases (h.key? x hx).symm.trans hkey
    exact List.mem_cons_self
  | step h _ ih =>
    intro x hx key hkey
    rcases List.mem_append.mp hx with hx | hx
    · cases (h.key? x hx).symm.trans hkey
      exact List.mem_cons_self
    · exact List.mem_cons_of_mem _ (ih x hx key hkey)

theorem Talks.basedOnStored
    (hupdate : ∀ st ∈ stages, ∀ existing, st.kind.Keeps existing (st.update existing))
    (h : Talks ns stages exchanges applied obstacle) {before after : VersionedStore} {kind : Kind}
    {ns' : String} {object : kind.Object}
    (hx : ⟨before, .replace kind ns' object, .ok (), after⟩ ∈ exchanges) :
    BasedOnStored exchanges before kind ns' object after := by
  induction h with
  | finished => cases hx
  | stopped h => exact h.basedOnStored (hupdate _ List.mem_cons_self) hx
  | step h _ ih =>
    rcases List.mem_append.mp hx with hx | hx
    · exact (h.basedOnStored (hupdate _ List.mem_cons_self) hx).mono
        (List.subset_append_left _ _)
    · exact (ih (fun r hr => hupdate r (List.mem_cons_of_mem _ hr)) hx).mono
        (List.subset_append_right _ _)

-- What follows from a refused call about the child under `key`: it is not written in these
-- exchanges, no exchange is about one of the children under `later`, and the child is the obstacle.
structure StopsAt (exchanges : List Exchange) (obstacle : Option Obstacle) (key : ObjectKey)
    (later : List ObjectKey) (e : ApiError) : Prop where
  obstacle_eq : obstacle = some (.child key.kind e)
  unwritten : ∀ y ∈ exchanges, y.call.key? = some key → y.after = y.before
  untouched : ∀ y ∈ exchanges, ∀ other ∈ y.call.key?, other ∉ later

theorem Talks.stopsAt (hkeys : (stages.map fun st => st.key ns).Nodup)
    (h : Talks ns stages exchanges applied obstacle) {earlier later : List ObjectKey}
    {key : ObjectKey} (hsplit : (stages.map fun st => st.key ns) = earlier ++ key :: later)
    {x : Exchange} (hx : x ∈ exchanges) (hkey : x.call.key? = some key) {e : ApiError}
    (hrefused : x.reply = x.call.refuse e) : StopsAt exchanges obstacle key later e := by
  induction h generalizing earlier with
  | finished => cases hx
  | @stopped st rest exchanges e' h =>
    obtain ⟨hresult, hunwritten⟩ := h.of_refused hx hrefused
    cases hresult
    cases (h.key? x hx).symm.trans hkey
    have hnot := (List.nodup_cons.mp hkeys).1
    cases earlier with
    | nil =>
      obtain ⟨-, rfl⟩ := List.cons.inj hsplit
      refine ⟨rfl, fun y hy _ => hunwritten y hy, fun y hy other hother => ?_⟩
      cases (h.key? y hy).symm.trans hother
      exact hnot
    | cons first earlier =>
      obtain ⟨-, hrest⟩ := List.cons.inj hsplit
      exact absurd (hrest ▸ List.mem_append_right _ List.mem_cons_self) hnot
  | @step st rest exchanges more _ _ _ h hrest ih =>
    obtain ⟨hnot, hrestKeys⟩ := List.nodup_cons.mp hkeys
    rcases List.mem_append.mp hx with hx | hx
    · -- a stage that went well was refused nothing
      cases (h.of_refused hx hrefused).1
    have hmem := hrest.key? x hx key hkey
    cases earlier with
    | nil =>
      obtain ⟨hsame, -⟩ := List.cons.inj hsplit
      exact absurd (hsame ▸ hmem) hnot
    | cons first earlier =>
      obtain ⟨-, hsplit⟩ := List.cons.inj hsplit
      obtain ⟨hobstacle, hunwritten, huntouched⟩ := ih hrestKeys hsplit hx
      refine ⟨hobstacle, fun y hy hsame => ?_, fun y hy other hother => ?_⟩
      · rcases List.mem_append.mp hy with hy | hy
        · cases (h.key? y hy).symm.trans hsame
          exact absurd hmem hnot
        · exact hunwritten y hy hsame
      · rcases List.mem_append.mp hy with hy | hy
        · cases (h.key? y hy).symm.trans hother
          intro hlater
          exact hnot (hsplit ▸ List.mem_append_right _ (List.mem_cons_of_mem _ hlater))
        · exact huntouched y hy other hother

end Stage

namespace Operator

variable {op : Operator} {now : Instant} {ns name : String} {g : Gateway}
  {s t : VersionedStore} {exchanges : List Exchange}

theorem apart_of_responsible {ours : Bool} (h : (op.responsible g).Among s exchanges ours t) :
    ∀ x ∈ exchanges, x.Apart := by
  obtain ⟨u, reply, v, rest, rfl, -, -, hrest⟩ := h.exists_of_call_bind
  have hend : rest = [] := by
    rcases reply with e | classes
    · exact (Program.Among.eq_of_pure (a := false) hrest).1
    · exact (Program.Among.eq_of_pure hrest).1
  subst hend
  simp only [List.mem_singleton, forall_eq]
  exact ⟨by simp [Call.key?], by simp [Call.point]⟩

-- The pass has an error at this point only if the status was refused.
theorem apart_of_persistStatus {status : GatewayStatus} {result : Except PassError Bool}
    (h : (persistStatus g status).Among s exchanges result t) :
    (∀ x ∈ exchanges, x.Apart) ∧ ∀ e, result = .error e →
      ∃ u refusal, ⟨u, .putStatus g status, .error refusal, u⟩ ∈ exchanges ∧
        e = .statusWrite refusal := by
  unfold persistStatus at h
  split at h
  · obtain ⟨u, reply, v, rest, rfl, -, hanswer, hrest⟩ := h.exists_of_call_bind
    have hapart : Exchange.Apart ⟨u, .putStatus g status, reply, v⟩ :=
      ⟨by simp [Call.key?, ObjectKey.of], by simp [Call.point]⟩
    cases hanswer with
    | @refused _ refusal =>
      obtain ⟨rfl, rfl⟩ :=
        Program.Among.eq_of_pure (a := Except.error (PassError.statusWrite refusal)) hrest
      refine ⟨by simpa using hapart, ?_⟩
      rintro e ⟨rfl⟩
      exact ⟨u, refusal, List.mem_cons_self, rfl⟩
    | recorded =>
      obtain ⟨rfl, rfl⟩ := Program.Among.eq_of_pure (a := Except.ok true) hrest
      exact ⟨by simpa using hapart, by simp⟩
  · obtain ⟨rfl, rfl⟩ := Program.Among.eq_of_pure (a := Except.ok false) h
    exact ⟨by simp, by simp⟩

-- The stages that a pass comes to: those of the children under the given keys, or none.
structure Reaches (keys : List ObjectKey) (ns : String) (stages : List Stage) : Prop where
  keeps : ∀ st ∈ stages, ∀ existing, st.kind.Keeps existing (st.update existing)
  keys : stages = [] ∨ (stages.map fun st => st.key ns) = keys

theorem talks_of_applyChildren {outcome : List (Kind × Applied) × Except Obstacle String}
    (h : (op.applyChildren g ns).Among s exchanges outcome t) :
    ∃ stages applied obstacle, Reaches (Children.keys ns g.name) ns stages ∧
      Stage.Talks ns stages exchanges applied obstacle ∧
      ∀ o ∈ obstacle, outcome.2 = .error o := by
  unfold applyChildren at h
  split at h
  next o hplan =>
    obtain ⟨rfl, rfl⟩ := Program.Among.eq_of_pure (a := ([], Except.error o)) h
    exact ⟨[], [], none, ⟨by simp, .inl rfl⟩, .finished, by simp⟩
  next children hash hplan =>
    obtain ⟨rendered, -, hchildren, -⟩ := plan_eq_ok hplan
    have hkeeps : ∀ st ∈ children.stages, ∀ existing, st.kind.Keeps existing (st.update existing) :=
      fun st hst => Children.keeps_update hchildren hst
    obtain ⟨first, done, u, rest, rfl, hfirst, hrest⟩ := h.exists_of_bind
    have htalks := Stage.talks_of_among hkeeps hfirst
    obtain ⟨applied, obstacle⟩ := done
    have hend : rest = [] ∧ ∀ o ∈ obstacle, outcome.2 = .error o := by
      cases obstacle with
      | none =>
        obtain ⟨rfl, rfl⟩ := Program.Among.eq_of_pure (a := (applied, Except.ok hash)) hrest
        exact ⟨rfl, by simp⟩
      | some o =>
        obtain ⟨rfl, rfl⟩ := Program.Among.eq_of_pure (a := (applied, Except.error o)) hrest
        exact ⟨rfl, by simp⟩
    obtain ⟨rfl, hobstacle⟩ := hend
    rw [List.append_nil]
    exact ⟨children.stages, applied, obstacle,
      ⟨hkeeps, .inr (Children.keys_stages hchildren ns)⟩, htalks, hobstacle⟩

-- Around the exchanges about the children there are others, and if a child is in the way then the
-- pass fails with it, unless the status was refused.
structure Converses (ns name : String) (exchanges : List Exchange)
    (result : Except PassError Report) (stages : List Stage) (front talk back : List Exchange)
    (obstacle : Option Obstacle) : Prop where
  split : exchanges = front ++ talk ++ back
  apart : ∀ x ∈ front ++ back, x.Apart
  reaches : Reaches (Children.keys ns name) ns stages
  talks : ∃ applied, Stage.Talks ns stages talk applied obstacle
  result : ∀ o ∈ obstacle, (∃ report, result = .ok report ∧ report.outcome = .failed o.failure) ∨
    ∃ u g status refusal, ⟨u, .putStatus g status, .error refusal, u⟩ ∈ exchanges ∧
      result = .error (.statusWrite refusal)

theorem converses_of_apart {result : Except PassError Report} (h : ∀ x ∈ exchanges, x.Apart) :
    Converses ns name exchanges result [] exchanges [] [] none :=
  ⟨by simp, by simpa using h, ⟨by simp, .inl rfl⟩, ⟨[], .finished⟩, by simp⟩

theorem converses_of_passOver {result : Except PassError Report}
    (h : (op.passOver now ns g).Among s exchanges result t) :
    ∃ stages front talk back obstacle,
      Converses ns g.name exchanges result stages front talk back obstacle := by
  obtain ⟨front, ours, u, rest, rfl, hfront, hrest⟩ := h.exists_of_bind
  have hfrontApart := apart_of_responsible hfront
  cases ours with
  | false =>
    obtain ⟨rfl, -⟩ := Program.Among.eq_of_pure hrest
    exact ⟨_, _, _, _, _, converses_of_apart (by simpa using hfrontApart)⟩
  | true =>
    obtain ⟨talk, outcome, v, more, rfl, htalk, hmore⟩ := Program.Among.exists_of_bind hrest
    obtain ⟨stages, applied, obstacle, hreaches, htalks, hobstacle⟩ := talks_of_applyChildren htalk
    obtain ⟨back, written, w, last, rfl, hback, hlast⟩ := hmore.exists_of_bind
    obtain ⟨hbackApart, hrefusal⟩ := apart_of_persistStatus hback
    have hend : last = [] ∧ ((∃ e, written = .error e ∧ result = .error e) ∨
        ∃ report, result = .ok report ∧ report.outcome = outcomeOf outcome.2) := by
      cases written with
      | error e =>
        obtain ⟨rfl, rfl⟩ := Program.Among.eq_of_pure (a := Except.error e) hlast
        exact ⟨rfl, .inl ⟨e, rfl, rfl⟩⟩
      | ok written =>
        obtain ⟨rfl, rfl⟩ := Program.Among.eq_of_pure hlast
        exact ⟨rfl, .inr ⟨_, rfl, rfl⟩⟩
    obtain ⟨rfl, hresult⟩ := hend
    refine ⟨stages, front, talk, back, obstacle, by simp, ?_, hreaches, ⟨applied, htalks⟩,
      fun o ho => ?_⟩
    · exact List.forall_mem_append.mpr ⟨hfrontApart, hbackApart⟩
    · rcases hresult with ⟨e, hwritten, rfl⟩ | ⟨report, rfl, houtcome⟩
      · obtain ⟨x, refusal, hx, rfl⟩ := hrefusal e hwritten
        exact .inr ⟨x, g, _, refusal, List.mem_append_right _ (List.mem_append_right _
          (List.mem_append_left _ hx)), rfl⟩
      · rw [hobstacle o ho] at houtcome
        exact .inl ⟨report, rfl, houtcome⟩

theorem converses_of_pass {result : Except PassError Report}
    (h : (op.pass now ns name).Among s exchanges result t) :
    ∃ stages front talk back obstacle,
      Converses ns name exchanges result stages front talk back obstacle := by
  obtain ⟨u, reply, v, rest, rfl, -, hanswer, hrest⟩ := h.exists_of_call_bind
  have hget (reply) : Exchange.Apart ⟨u, .get .gateway ns name, reply, v⟩ :=
    ⟨by simp [Call.key?], by simp [Call.point]⟩
  cases hanswer with
  | @refused _ e =>
    obtain ⟨rfl, -⟩ := Program.Among.eq_of_pure (a := Except.error (PassError.fetch e)) hrest
    exact ⟨_, _, _, _, _, converses_of_apart (by simpa using hget _)⟩
  | found =>
    cases hfound : u.objects ⟨.gateway, ns, name⟩ with
    | none =>
      rw [hfound] at hrest
      obtain ⟨rfl, -⟩ := Program.Among.eq_of_pure hrest
      exact ⟨_, _, _, _, _, converses_of_apart (by simpa using hget _)⟩
    | some g =>
      rw [hfound] at hrest
      have hname : g.name = name :=
        congrArg ObjectKey.name (u.keyed ⟨.gateway, ns, name⟩ g hfound)
      obtain ⟨stages, front, talk, back, obstacle, rfl, hapart, hreaches, htalks, hresult⟩ :=
        converses_of_passOver (g := g) hrest
      refine ⟨stages, _ :: front, talk, back, obstacle, rfl, ?_, hname ▸ hreaches, htalks,
        fun o ho => ?_⟩
      · exact List.forall_mem_cons.mpr ⟨hget _, hapart⟩
      · rcases hresult o ho with hok | ⟨x, g', status, refusal, hx, rfl⟩
        · exact .inl hok
        · exact .inr ⟨x, g', status, refusal, List.mem_cons_of_mem _ hx, rfl⟩

theorem Converses.cases {result : Except PassError Report} {stages : List Stage}
    {front talk back : List Exchange} {obstacle : Option Obstacle}
    (h : Converses ns name exchanges result stages front talk back obstacle) {x : Exchange}
    (hx : x ∈ exchanges) : x.Apart ∨ x ∈ talk := by
  rw [h.split, List.append_assoc, List.mem_append, List.mem_append] at hx
  rcases hx with hx | hx | hx
  · exact .inl (h.apart x (List.mem_append_left _ hx))
  · exact .inr hx
  · exact .inl (h.apart x (List.mem_append_right _ hx))

end Operator

namespace Stage

variable {st : Stage} {ns : String} {s t u : VersionedStore}

theorem among_of_replaced {existing : st.kind.Object}
    (hfound : s.objects ⟨st.kind, ns, st.name⟩ = some existing)
    (hdrifted : st.drifted existing = true)
    (hanswer : s.Answers (.replace st.kind ns (st.update existing)) (.ok ()) t) :
    (st.apply ns).Among s
      [⟨s, .get st.kind ns st.name, .ok (some existing), s⟩,
       ⟨s, .replace st.kind ns (st.update existing), .ok (), t⟩]
      (.ok .updated) t := by
  have hget : s.Answers (.get st.kind ns st.name) (.ok (some existing)) s := hfound ▸ .found
  refine .ask .refl hget ?_
  change (if st.drifted existing = true then _ else _ : Program _).Among _ _ _ _
  rw [if_pos hdrifted]
  exact .ask .refl hanswer (.done .refl)

theorem among_of_createRefused (habsent : s.objects ⟨st.kind, ns, st.name⟩ = none)
    (hothers : Others s t) (e : ApiError) :
    (st.apply ns).Among s
      [⟨s, .get st.kind ns st.name, .ok none, s⟩, ⟨t, .create st.kind ns st.desired, .error e, t⟩]
      (.error e) t := by
  have hget : s.Answers (.get st.kind ns st.name) (.ok none) s := habsent ▸ .found
  exact .ask .refl hget (.ask hothers .refused (.done .refl))

-- The config map is updated, and then the store refuses a new deployment.
theorem among_applyAll_stages {c : Children} {existing : ConfigMap}
    (hfound : s.objects ⟨.configMap, ns, Kind.nameOf .configMap c.configMap⟩ = some existing)
    (hdrifted : existing.drifted c.configMap = true)
    (hanswer : s.Answers (.replace .configMap ns (existing.update c.configMap)) (.ok ()) t)
    (habsent : t.objects ⟨.deployment, ns, Kind.nameOf .deployment c.deployment⟩ = none)
    (hothers : Others t u) (e : ApiError) :
    (applyAll ns c.stages).Among s
      [⟨s, .get .configMap ns (Kind.nameOf .configMap c.configMap), .ok (some existing), s⟩,
       ⟨s, .replace .configMap ns (existing.update c.configMap), .ok (), t⟩,
       ⟨t, .get .deployment ns (Kind.nameOf .deployment c.deployment), .ok none, t⟩,
       ⟨u, .create .deployment ns c.deployment, .error e, u⟩]
      ([(.configMap, .updated)], some (.child .deployment e)) u := by
  have hfirst := @among_of_replaced
    { kind := .configMap, desired := c.configMap,
      drifted := fun existing => ConfigMap.drifted existing c.configMap,
      update := fun existing => ConfigMap.update existing c.configMap }
    ns s t existing hfound hdrifted hanswer
  have hsecond := @among_of_createRefused
    { kind := .deployment, desired := c.deployment,
      drifted := fun existing => Deployment.drifted existing c.deployment,
      update := fun existing => Deployment.update existing c.deployment }
    ns t u habsent hothers e
  have hrest : (applyAll ns c.stages.tail).Among t _ ([], some (.child .deployment e)) u :=
    hsecond.bind (.done .refl)
  exact hfirst.bind (hrest.bind (.done .refl))

end Stage

namespace Operator

variable {op : Operator} {now : Instant} {ns name : String} {g : Gateway}
  {s t u : VersionedStore} {exchanges : List Exchange}

-- A pass that is stopped at a child, and can write this into the status.
theorem among_of_stopped {classes : List GatewayClass} {children : Children} {hash : String}
    {talk : List Exchange} {applied : List (Kind × Applied)} {obstacle : Obstacle}
    (hobject : s.objects ⟨.gateway, ns, name⟩ = some g)
    (hassigned : GatewayClass.assigns op.controller g.className? classes = true)
    (hplan : op.plan g = .ok (children, hash))
    (htalk : (Stage.applyAll ns children.stages).Among s talk (applied, some obstacle) t)
    (hchanged : GatewayStatus.changed g.status (nextStatus g (.error obstacle) now) = true)
    (hanswer : t.Answers (.putStatus g (nextStatus g (.error obstacle) now)) (.ok ()) u) :
    (op.pass now ns name).Among s
      (⟨s, .get .gateway ns name, .ok (some g), s⟩ :: ⟨s, .listClasses, .ok classes, s⟩ ::
        (talk ++ [⟨t, .putStatus g (nextStatus g (.error obstacle) now), .ok (), u⟩]))
      (.ok ⟨.failed obstacle.failure, applied, true⟩) u := by
  have hget : s.Answers (.get .gateway ns name) (.ok (some g)) s := hobject ▸ .found
  have hours : (op.responsible g).Among s [⟨s, .listClasses, .ok classes, s⟩] true s :=
    hassigned ▸ .ask .refl .listed (.done .refl)
  have hchildren : (op.applyChildren g ns).Among s (talk ++ []) (applied, .error obstacle) t := by
    simp only [applyChildren, hplan]
    exact htalk.bind (.done .refl)
  have hstatus : (persistStatus g (nextStatus g (.error obstacle) now)).Among t
      [⟨t, .putStatus g (nextStatus g (.error obstacle) now), .ok (), u⟩] (.ok true) u := by
    simp only [persistStatus, hchanged, if_true]
    exact .ask .refl hanswer (.done .refl)
  rw [List.append_nil] at hchildren
  exact .ask .refl hget (hours.bind (hchildren.bind (hstatus.bind (.done .refl))))

def contestedGateway : Gateway := { freshGateway with metadata.resourceVersion := some "1" }

-- It has no configuration yet.
def contestedConfigMap : ConfigMap where
  metadata :=
    { name := some "gw-config", ns := some "default", labels := some (.singleton "team" "ai")
      resourceVersion := some "2" }

def contestedStore : VersionedStore :=
  (VersionedStore.empty.write (.of .gateway contestedGateway) contestedGateway rfl "1").write
    (.of .configMap contestedConfigMap) contestedConfigMap rfl "2"

theorem issued_contestedStore : contestedStore.issued = {"2", "1"} := by
  simp [contestedStore, VersionedStore.write, VersionedStore.set, VersionedStore.empty]

theorem plan_contestedGateway :
    ∃ c hash, ({} : Operator).plan contestedGateway = .ok (c, hash) ∧
      Kind.nameOf .configMap c.configMap = "gw-config" ∧
      Kind.nameOf .deployment c.deployment = "gw" ∧
      contestedConfigMap.drifted c.configMap = true := by
  obtain ⟨c, hash, hplan⟩ : ∃ c hash, ({} : Operator).plan contestedGateway = .ok (c, hash) :=
    ⟨_, _, rfl⟩
  obtain ⟨rendered, -, hchildren, -⟩ := plan_eq_ok hplan
  obtain ⟨ns, owner, hns, hconfigMap, hdeployment, -⟩ := Children.ofGateway_eq_ok hchildren
  cases hns
  refine ⟨c, hash, hplan, hconfigMap ▸ rfl, hdeployment ▸ rfl, ?_⟩
  rw [hconfigMap]
  simp [ConfigMap.drifted, ConfigMap.configFile?, Children.configMapFor, contestedConfigMap]

-- The deployment that another pass makes
def rivalDeployment : Deployment := { metadata := { name := some "gw", ns := some "default" } }

-- The pass updates the config map and finds no deployment; before it comes to make one, another
-- pass has made one.
theorem among_contestedStore :
    ∃ (exchanges : List Exchange) (t before after u : VersionedStore) (object : ConfigMap)
      (d : Deployment),
      (({} : Operator).pass ⟨0, false⟩ "default" "gw").Among contestedStore exchanges
        (.ok ⟨.failed (Obstacle.child .deployment (MemoryStore.alreadyExists "gw")).failure,
          [(.configMap, .updated)], true⟩) t ∧
      ⟨before, .replace .configMap "default" object, .ok (), after⟩ ∈ exchanges ∧
      ⟨u, .create .deployment "default" d, .error (MemoryStore.alreadyExists "gw"), u⟩ ∈
        exchanges ∧
      Kind.nameOf .deployment d = "gw" := by
  obtain ⟨c, hash, hplan, hname, hname', hdrifted⟩ := plan_contestedGateway
  -- the pass updates the config map
  let updated : ConfigMap := contestedConfigMap.update c.configMap
  have hkey : ObjectKey.of .configMap updated =
    ⟨.configMap, "default", Kind.nameOf .configMap updated⟩ := rfl
  have hfound : contestedStore.objects ⟨.configMap, "default", "gw-config"⟩ =
    some contestedConfigMap := rfl
  let s₁ : VersionedStore := contestedStore.write
    ⟨.configMap, "default", Kind.nameOf .configMap updated⟩ updated hkey "3"
  have hreplaced : contestedStore.Answers (.replace .configMap "default" updated) (.ok ()) s₁ :=
    .replaced hkey hfound rfl (by simp [issued_contestedStore])
  have hissued₁ : s₁.issued = {"3", "2", "1"} := congrArg (insert "3") issued_contestedStore
  -- the other pass makes the deployment
  have hrival : ObjectKey.of .deployment rivalDeployment =
    ⟨.deployment, "default", Kind.nameOf .deployment rivalDeployment⟩ := rfl
  have habsent : s₁.objects ⟨.deployment, "default", "gw"⟩ = none := rfl
  let s₂ : VersionedStore := s₁.write
    ⟨.deployment, "default", Kind.nameOf .deployment rivalDeployment⟩ rivalDeployment hrival "4"
  have hcreated : s₁.Answers (.create .deployment "default" rivalDeployment) (.ok ()) s₂ :=
    .created hrival habsent (by simp [hissued₁])
  have hissued₂ : s₂.issued = {"4", "3", "2", "1"} := congrArg (insert "4") hissued₁
  have htalk := Stage.among_applyAll_stages (hname ▸ hfound) hdrifted hreplaced (hname' ▸ habsent)
    hcreated.others (MemoryStore.alreadyExists "gw")
  -- the pass writes its status
  have hassigned : GatewayClass.assigns ({} : Operator).controller contestedGateway.className?
    [freshClass] = true := by decide
  have hgateway : s₂.objects (.of .gateway contestedGateway) = some contestedGateway := rfl
  have hrecorded (status) : s₂.Answers (.putStatus contestedGateway status) (.ok ()) _ :=
    @Answers.recorded s₂ _ _ status (some status) "5" hgateway (by simp [hissued₂])
  refine ⟨_, _, contestedStore, s₁, s₂, updated, c.deployment,
    among_of_stopped rfl hassigned hplan htalk rfl (hrecorded _), ?_, ?_, hname'⟩
  · simp [updated]
  · simp

end Operator

namespace Operator

variable {op : Operator} {now : Instant} {ns name : String} {s t : VersionedStore}
  {exchanges : List Exchange}

-- However others write, make and delete objects between the calls of a pass: every replace that the
-- store accepts is made from the very object that it replaces, so that nothing that others have put
-- there is lost. And if the store refuses a call about a child, then the pass writes nothing there
-- and does not come to the later children; it fails with that child as the reason, to be tried
-- again, unless not even this can be written into the status.
theorem no_update_lost {result : Except PassError Report}
    (h : (op.pass now ns name).Among s exchanges result t) :
    (∀ (before : VersionedStore) (kind : Kind) (ns' : String) (object : kind.Object)
      (after : VersionedStore),
      ⟨before, .replace kind ns' object, .ok (), after⟩ ∈ exchanges →
      BasedOnStored exchanges before kind ns' object after) ∧
    ∀ earlier key later, Children.keys ns name = earlier ++ key :: later →
      ∀ x ∈ exchanges, ∀ e, x.call.key? = some key → x.reply = x.call.refuse e →
        (∀ y ∈ exchanges, y.call.key? = some key → y.after = y.before) ∧
        (∀ y ∈ exchanges, ∀ other ∈ y.call.key?, other ∉ later) ∧
        ((∃ report, result = .ok report ∧ report.outcome = .failed
            { reason := key.kind.name ++ "Failed"
              message := Obstacle.syncMessage key.kind e
              retryable := true }) ∨
          ∃ u g status refusal, ⟨u, .putStatus g status, .error refusal, u⟩ ∈ exchanges ∧
            result = .error (.statusWrite refusal)) := by
  obtain ⟨stages, front, talk, back, obstacle, hconverses⟩ := converses_of_pass h
  obtain ⟨applied, htalks⟩ := hconverses.talks
  have htalk : talk ⊆ exchanges := by
    rw [hconverses.split, List.append_assoc]
    exact List.subset_append_of_subset_right _ (List.subset_append_left _ _)
  constructor
  · intro before kind ns' object after hx
    rcases hconverses.cases hx with hapart | hx
    · exact absurd rfl hapart.operation
    · exact (htalks.basedOnStored hconverses.reaches.keeps hx).mono htalk
  · intro earlier key later hsplit x hx e hkey hrefused
    have hchild {other : ObjectKey} (hmem : other ∈ key :: later) : other.kind ≠ .gateway :=
      Children.kind_ne_gateway_of_mem_keys (hsplit ▸ List.mem_append_right _ hmem)
    rcases hconverses.cases hx with hapart | hx
    · exact absurd (hapart.kind key hkey) (hchild List.mem_cons_self)
    rcases hconverses.reaches.keys with rfl | hkeys
    · exact absurd (htalks.key? x hx key hkey) List.not_mem_nil
    have hnodup : (stages.map fun st => st.key ns).Nodup := by
      simp [hkeys, Children.keys]
    obtain ⟨rfl, hunwritten, huntouched⟩ :=
      htalks.stopsAt hnodup (hkeys.trans hsplit) hx hkey hrefused
    refine ⟨fun y hy hsame => ?_, fun y hy other hother hlater => ?_, hconverses.result _ rfl⟩
    · rcases hconverses.cases hy with hapart | hy
      · exact absurd (hapart.kind key hsame) (hchild List.mem_cons_self)
      · exact hunwritten y hy hsame
    · rcases hconverses.cases hy with hapart | hy
      · exact hchild (List.mem_cons_of_mem _ hlater) (hapart.kind other hother)
      · exact huntouched y hy other hother hlater

-- In that run the update of the config map is made from what was stored, with its label, and then
-- the deployment is the reason of the failure and the service is not looked at.
theorem no_update_lost_contested :
    ∃ (exchanges : List Exchange) (result : Except PassError Report)
      (t before after : VersionedStore) (object : ConfigMap),
      (({} : Operator).pass ⟨0, false⟩ "default" "gw").Among contestedStore exchanges result t ∧
      ⟨before, .replace .configMap "default" object, .ok (), after⟩ ∈ exchanges ∧
      BasedOnStored exchanges before .configMap "default" object after ∧
      (∀ y ∈ exchanges, y.call.key? = some ⟨.deployment, "default", "gw"⟩ → y.after = y.before) ∧
      (∀ y ∈ exchanges, y.call.key? ≠ some ⟨.service, "default", "gw"⟩) ∧
      ∃ report, result = .ok report ∧ report.outcome = .failed
        { reason := "DeploymentFailed"
          message := Obstacle.syncMessage .deployment (MemoryStore.alreadyExists "gw")
          retryable := true } := by
  obtain ⟨exchanges, t, before, after, u, object, d, hrun, hreplace, hcreate, hname⟩ :=
    among_contestedStore
  obtain ⟨hbased, hrefused⟩ := no_update_lost hrun
  obtain ⟨hunwritten, huntouched, hresult⟩ := hrefused [⟨.configMap, "default", "gw-config"⟩]
    ⟨.deployment, "default", "gw"⟩ [⟨.service, "default", "gw"⟩] rfl _ hcreate
    (MemoryStore.alreadyExists "gw") (by simp [Call.key?, hname]) rfl
  refine ⟨exchanges, _, t, before, after, object, hrun, hreplace,
    hbased before .configMap "default" object after hreplace, hunwritten, fun y hy hkey => ?_, ?_⟩
  · exact huntouched y hy _ hkey List.mem_cons_self
  · rcases hresult with hfailed | ⟨_, _, _, _, -, herror⟩
    · exact hfailed
    · cases herror

end Operator

end GatewayOperator
