import GatewayOperator.Proofs.Pass.Footprint

namespace GatewayOperator

namespace Program

inductive Side where
  | left
  | right
deriving DecidableEq, Repr

variable {α β σ : Type}

-- The next call of a program, if it is not done yet. No program means that there was no answer.
def advance (handler : Handler σ) (p : Program α) (state : σ) : Option (Program α) × σ :=
  match p with
  | done a => (some (done a), state)
  | ask call next =>
    match handler call state with
    | (some reply, state) => (some (next reply), state)
    | (none, state) => (none, state)

-- The next calls come from the given sides, one after the other. What is left after them is run to
-- its end, first the left program and then the right one.
def interleave (handler : Handler σ) (sides : List Side) (p : Program α) (q : Program β)
    (state : σ) : Option (α × β) × σ :=
  match sides with
  | [] =>
    match p.run handler state with
    | (some a, state) =>
      match q.run handler state with
      | (some b, state) => (some (a, b), state)
      | (none, state) => (none, state)
    | (none, state) => (none, state)
  | .left :: rest =>
    match p.advance handler state with
    | (some p, state) => interleave handler rest p q state
    | (none, state) => (none, state)
  | .right :: rest =>
    match q.advance handler state with
    | (some q, state) => interleave handler rest p q state
    | (none, state) => (none, state)

end Program

namespace MemoryStore

variable {keys keys' : Set ObjectKey} {s t s₁ s₁' t₁ s₂ s₂' t₂ u : MemoryStore}

-- What two programs do together from `s` to `t`, if on their own they go from `s₁` to `t₁` by
-- writes under `keys`, and from `s₂` to `t₂` by writes under `keys'`
structure Woven (keys keys' : Set ObjectKey) (s₁ t₁ s₂ t₂ s t : MemoryStore) : Prop where
  left : Agree keys t₁ t
  right : Agree keys' t₂ t
  rest : Agree (keys ∪ keys')ᶜ s t
  log : ∃ first second entries, t₁.log = s₁.log ++ first ∧ t₂.log = s₂.log ++ second ∧
    t.log = s.log ++ entries ∧ entries.Perm (first ++ second)

theorem Woven.symm (h : Woven keys keys' s₁ t₁ s₂ t₂ s t) :
    Woven keys' keys s₂ t₂ s₁ t₁ s t := by
  obtain ⟨first, second, entries, hfirst, hsecond, hentries, hperm⟩ := h.log
  exact ⟨h.right, h.left, Set.union_comm keys keys' ▸ h.rest, second, first, entries, hsecond,
    hfirst, hentries, hperm.trans List.perm_append_comm⟩

theorem woven_refl (h : Agree keys s₁ s) (h' : Agree keys' s₂ s) :
    Woven keys keys' s₁ s₁ s₂ s₂ s s :=
  ⟨h, h', .refl _ _, [], [], [], (List.append_nil _).symm, (List.append_nil _).symm,
    (List.append_nil _).symm, .refl _⟩

theorem Woven.after_left (h : SameWrites keys s₁ s₁' s u)
    (h' : Woven keys keys' s₁' t₁ s₂ t₂ u t) : Woven keys keys' s₁ t₁ s₂ t₂ s t := by
  have hsubset : (keys ∪ keys')ᶜ ⊆ keysᶜ := Set.compl_subset_compl.mpr Set.subset_union_left
  obtain ⟨writes, hwrites, hwrites'⟩ := h.log
  obtain ⟨first, second, entries, hfirst, hsecond, hentries, hperm⟩ := h'.log
  refine ⟨h'.left, h'.right, (h.rest.mono hsubset).trans h'.rest, writes ++ first, second,
    writes ++ entries, ?_, hsecond, ?_, ?_⟩
  · rw [hfirst, hwrites, List.append_assoc]
  · rw [hentries, hwrites', List.append_assoc]
  · rw [List.append_assoc]
    exact hperm.append_left writes

theorem Woven.after_right (h : SameWrites keys' s₂ s₂' s u)
    (h' : Woven keys keys' s₁ t₁ s₂' t₂ u t) : Woven keys keys' s₁ t₁ s₂ t₂ s t :=
  (h'.symm.after_left h).symm

end MemoryStore

namespace Program

open MemoryStore

variable {α β : Type} {keys keys' : Set ObjectKey} {p : Program α} {q : Program β} {a : α} {b : β}
  {s t s₁ t₁ s₂ t₂ : MemoryStore}

-- A program that keeps to its keys makes its next call as it does on its own.
theorem exists_advance (hp : p.Confined keys s) (h : Agree keys s t)
    (hrun : p.run handle s = (some a, s₁)) :
    ∃ p' s' t', p.advance handle t = (some p', t') ∧ p'.Confined keys s' ∧
      p'.run handle s' = (some a, s₁) ∧ SameWrites keys s s' t t' := by
  cases p with
  | done a => exact ⟨done a, s, t, rfl, trivial, hrun, .refl h⟩
  | ask c next =>
    obtain ⟨hs, hkey, hnext⟩ := hp
    obtain ⟨reply, s', t', hrunS, hrunT, hsame⟩ := alike_of_agree hs h hkey
    simp only [run, hrunS] at hrun
    cases reply with
    | none => cases hrun
    | some reply =>
      refine ⟨next reply, s', t', ?_, hnext reply s' hrunS, hrun, hsame⟩
      simp only [advance, hrunT]

-- What one program writes is not seen by the other.
theorem agree_after (hapart : ∀ key ∈ keys', key ∉ keys) (h : Agree keys' s₂ s)
    (hsame : SameWrites keys s₁ t₁ s t) : Agree keys' s₂ t :=
  h.trans (hsame.rest.mono hapart)

theorem exists_run_run (hapart : ∀ key ∈ keys, key ∉ keys') (hp : p.Confined keys s₁)
    (hq : q.Confined keys' s₂) (h₁ : Agree keys s₁ s) (h₂ : Agree keys' s₂ s)
    (hrun₁ : p.run handle s₁ = (some a, t₁)) (hrun₂ : q.run handle s₂ = (some b, t₂)) :
    ∃ u t, p.run handle s = (some a, u) ∧ q.run handle u = (some b, t) ∧
      Woven keys keys' s₁ t₁ s₂ t₂ s t := by
  obtain ⟨_, _, u, halone, hrun, hsame⟩ := hp.run_of_agree h₁
  cases halone.symm.trans hrun₁
  have hapart' : ∀ key ∈ keys', key ∉ keys := fun key hkey' hkey => hapart key hkey hkey'
  have h₂' := agree_after hapart' h₂ hsame
  obtain ⟨_, _, t, halone', hrun', hsame'⟩ := hq.run_of_agree h₂'
  cases halone'.symm.trans hrun₂
  have hleft := agree_after hapart hsame.agree hsame'
  exact ⟨u, t, hrun, hrun',
    .after_left hsame (.after_right hsame' (woven_refl hleft hsame'.agree))⟩

-- In any order of their calls, by induction on the calls that are left to choose: each call leaves
-- two programs that come to the same results on their own.
theorem exists_interleave (hapart : ∀ key ∈ keys, key ∉ keys') (sides : List Side)
    (hp : p.Confined keys s₁) (hq : q.Confined keys' s₂) (h₁ : Agree keys s₁ s)
    (h₂ : Agree keys' s₂ s) (hrun₁ : p.run handle s₁ = (some a, t₁))
    (hrun₂ : q.run handle s₂ = (some b, t₂)) :
    ∃ t, interleave handle sides p q s = (some (a, b), t) ∧
      Woven keys keys' s₁ t₁ s₂ t₂ s t := by
  have hapart' : ∀ key ∈ keys', key ∉ keys := fun key hkey' hkey => hapart key hkey hkey'
  induction sides generalizing p q s s₁ s₂ with
  | nil =>
    obtain ⟨u, t, hrun, hrun', hwoven⟩ := exists_run_run hapart hp hq h₁ h₂ hrun₁ hrun₂
    refine ⟨t, ?_, hwoven⟩
    simp only [interleave, hrun, hrun']
  | cons side rest ih =>
    cases side with
    | left =>
      obtain ⟨p', s₁', u, hadvance, hp', hrun₁', hsame⟩ := exists_advance hp h₁ hrun₁
      have h₂' := agree_after hapart' h₂ hsame
      obtain ⟨t, hrest, hwoven⟩ := ih hp' hq hsame.agree h₂' hrun₁' hrun₂
      refine ⟨t, ?_, .after_left hsame hwoven⟩
      simp only [interleave, hadvance, hrest]
    | right =>
      obtain ⟨q', s₂', u, hadvance, hq', hrun₂', hsame⟩ := exists_advance hq h₂ hrun₂
      have h₁' := agree_after hapart h₁ hsame
      obtain ⟨t, hrest, hwoven⟩ := ih hp hq' h₁' hsame.agree hrun₁ hrun₂'
      refine ⟨t, ?_, .after_right hsame hwoven⟩
      simp only [interleave, hadvance, hrest]

end Program

namespace GatewayStatus

def untimed (s : GatewayStatus) : GatewayStatus :=
  { s with
    conditions := s.conditions.map Condition.untimed
    lastUpdated := s.lastUpdated.map fun _ => default }

theorem untimed_afterPass (s : GatewayStatus) (result : Except Obstacle String)
    (now later : Instant) :
    (s.afterPass result later).untimed = (s.afterPass result now).untimed := by
  simp only [untimed, untimed_conditions_afterPass s result now later,
    configHash_afterPass s result now later]
  cases result <;> rfl

end GatewayStatus

def Gateway.untimed (g : Gateway) : Gateway :=
  { g with status := g.status.map GatewayStatus.untimed }

namespace MemoryStore

-- The same objects but for the times in the status of a gateway, and the same log but for its order
structure SameUpToTimes (s t : MemoryStore) : Prop where
  failing : t.failing = s.failing
  classes : t.classes = s.classes
  find? : ∀ key, t.find? key = s.find? key ∨
    key.kind = .gateway ∧ ∃ g g' : Gateway, s.find? key = some g.toJson ∧
      t.find? key = some g'.toJson ∧ g'.untimed = g.untimed
  log : t.log.Perm s.log

variable {keys keys' : Set ObjectKey} {s s₁ s₂ t t₁ t₂ t' t₁' t₂' : MemoryStore}

theorem SameUpToTimes.refl (s : MemoryStore) : SameUpToTimes s s :=
  ⟨rfl, rfl, fun _ => .inl rfl, .refl _⟩

theorem SameUpToTimes.find?_congr (h : SameUpToTimes s t) {key : ObjectKey}
    (hs : s₁.find? key = s.find? key) (ht : t₁.find? key = t.find? key) :
    t₁.find? key = s₁.find? key ∨
      key.kind = .gateway ∧ ∃ g g' : Gateway, s₁.find? key = some g.toJson ∧
        t₁.find? key = some g'.toJson ∧ g'.untimed = g.untimed := by
  rw [hs, ht]
  exact h.find? key

-- If times apart each program does the same on its own, so do both together.
theorem Woven.sameUpToTimes (h : Woven keys keys' s t₁ s t₂ s t)
    (h' : Woven keys keys' s t₁' s t₂' s t') (h₁ : SameUpToTimes t₁ t₁')
    (h₂ : SameUpToTimes t₂ t₂') : SameUpToTimes t t' := by
  refine ⟨h'.rest.failing.trans h.rest.failing.symm, h'.rest.classes.trans h.rest.classes.symm,
    fun key => ?_, ?_⟩
  · by_cases hleft : key ∈ keys
    · exact h₁.find?_congr (h.left.find? key hleft) (h'.left.find? key hleft)
    · by_cases hright : key ∈ keys'
      · exact h₂.find?_congr (h.right.find? key hright) (h'.right.find? key hright)
      · have hneither : key ∈ (keys ∪ keys')ᶜ := fun hmem => hmem.elim hleft hright
        exact .inl ((h'.rest.find? key hneither).trans (h.rest.find? key hneither).symm)
  · obtain ⟨first, second, entries, hfirst, hsecond, hentries, hperm⟩ := h.log
    obtain ⟨first', second', entries', hfirst', hsecond', hentries', hperm'⟩ := h'.log
    have hsame₁ : first'.Perm first := by
      have hlog := h₁.log
      rwa [hfirst, hfirst', List.perm_append_left_iff] at hlog
    have hsame₂ : second'.Perm second := by
      have hlog := h₂.log
      rwa [hsecond, hsecond', List.perm_append_left_iff] at hlog
    rw [hentries, hentries']
    exact (hperm'.trans ((hsame₁.append hsame₂).trans hperm.symm)).append_left s.log

theorem sameUpToTimes_withStatus (s : MemoryStore) (g : Gateway) {status status' : GatewayStatus}
    (h : status'.untimed = status.untimed) :
    SameUpToTimes (s.withStatus g status) (s.withStatus g status') := by
  refine ⟨rfl, rfl, fun key => ?_, .refl _⟩
  by_cases hkey : key = .of .gateway g
  · subst hkey
    refine .inr ⟨rfl, { g with status := some status }, { g with status := some status' },
      find?_put_self s _ _, find?_put_self s _ _, ?_⟩
    simp only [Gateway.untimed, Option.map_some, h]
  · exact .inl ((find?_put_of_ne s hkey _).trans (find?_put_of_ne s hkey _).symm)

end MemoryStore

namespace Operator

variable {op op' : Operator} {now : Instant} {ns name ns' name' : String} {s t : MemoryStore}
  {report : Except PassError Report}

-- At another time a pass does the same but for the time that it writes.
theorem Passes.at_time (h : op.Passes now ns name s report t) (later : Instant) :
    ∃ u, op.Passes later ns name s report u ∧ MemoryStore.SameUpToTimes t u := by
  have hsame (g : Gateway) (result : Except Obstacle String) :
      GatewayStatus.changed g.status (nextStatus g result later) =
        GatewayStatus.changed g.status (nextStatus g result now) :=
    GatewayStatus.changed_afterPass _ _ result now later
  cases h with
  | fetchFails hget => exact ⟨s, .fetchFails hget, .refl s⟩
  | notFound hget habsent => exact ⟨s, .notFound hget habsent, .refl s⟩
  | skipped hget hobject hassigned => exact ⟨s, .skipped hget hobject hassigned, .refl s⟩
  | unchanged hclaims happlies hchanged =>
    exact ⟨t, .unchanged hclaims happlies ((hsame _ _).trans hchanged), .refl t⟩
  | statusFails hclaims happlies hchanged hstatus =>
    exact ⟨t, .statusFails hclaims happlies ((hsame _ _).trans hchanged) hstatus, .refl t⟩
  | @written g _ result u hclaims happlies hchanged hstatus =>
    exact ⟨_, .written hclaims happlies ((hsame _ _).trans hchanged) hstatus,
      MemoryStore.sameUpToTimes_withStatus u g (GatewayStatus.untimed_afterPass _ result now later)⟩

-- Whatever the order of their calls and the times at which they are made, passes over two gateways
-- come to the same results and leave the same objects as one after the other, in either order. None
-- of them alters anything but its own gateway's status and children.
theorem interleave_pass (op op' : Operator) (hs : s.WellKeyed)
    (hne : (ns, name) ≠ (ns', name')) :
    ∃ result result', ∀ (sides : List Program.Side) (now now' later later' : Instant),
      ∃ t first second u v,
        Program.interleave MemoryStore.handle sides (op.pass now ns name)
          (op'.pass now' ns' name') s = (some (result, result'), t) ∧
        ((op.pass later ns name).run MemoryStore.handle s = (some result, u) ∧
          (op'.pass later' ns' name').run MemoryStore.handle u = (some result', first) ∧
          MemoryStore.SameUpToTimes first t ∧ AltersOnly ns name s u) ∧
        ((op'.pass later' ns' name').run MemoryStore.handle s = (some result', v) ∧
          (op.pass later ns name).run MemoryStore.handle v = (some result, second) ∧
          MemoryStore.SameUpToTimes second t ∧ AltersOnly ns' name' s v) := by
  have hself (ns name : String) : MemoryStore.Agree (footprint ns name) s s := .refl _ s
  obtain ⟨result, _, hpasses⟩ := exists_passes op default ns name hs
  obtain ⟨result', _, hpasses'⟩ := exists_passes op' default ns' name' hs
  refine ⟨result, result', fun sides now now' later later' => ?_⟩
  obtain ⟨u, hlater, -⟩ := hpasses.at_time later
  obtain ⟨v, hlater', -⟩ := hpasses'.at_time later'
  obtain ⟨u₁, hnow, htimes⟩ := hlater.at_time now
  obtain ⟨v₁, hnow', htimes'⟩ := hlater'.at_time now'
  obtain ⟨t, hinterleave, hwoven⟩ := Program.exists_interleave (not_mem_footprint hne) sides
    (op.confined_pass now ns name hs) (op'.confined_pass now' ns' name' hs) (hself _ _)
    (hself _ _) (hnow.run hs) (hnow'.run hs)
  obtain ⟨_, first, halone, hthen, hfirst⟩ := Program.exists_run_run (not_mem_footprint hne)
    (op.confined_pass later ns name hs) (op'.confined_pass later' ns' name' hs) (hself _ _)
    (hself _ _) (hlater.run hs) (hlater'.run hs)
  cases halone.symm.trans (hlater.run hs)
  obtain ⟨_, second, halone', hthen', hsecond⟩ := Program.exists_run_run
    (not_mem_footprint hne.symm) (op'.confined_pass later' ns' name' hs)
    (op.confined_pass later ns name hs) (hself _ _) (hself _ _) (hlater'.run hs) (hlater.run hs)
  cases halone'.symm.trans (hlater'.run hs)
  exact ⟨t, first, second, u, v, hinterleave,
    ⟨halone, hthen, hfirst.sameUpToTimes hwoven htimes htimes', hlater.altersOnly hs⟩,
    ⟨halone', hthen', hsecond.symm.sameUpToTimes hwoven htimes htimes', hlater'.altersOnly hs⟩⟩

-- A gateway with the name of the config map of another one
def namesakeGateway : Gateway :=
  { freshGateway with
    metadata := { name := some "gw-config", ns := some "default", uid := some "2" } }

theorem interleave_pass_namesake :
    ∃ result result', ∀ (sides : List Program.Side) (now now' later later' : Instant),
      ∃ t first second u v,
        Program.interleave MemoryStore.handle sides
          (({} : Operator).pass now "default" "gw")
          (({} : Operator).pass now' "default" "gw-config")
          (freshStore.insert .gateway namesakeGateway) = (some (result, result'), t) ∧
        ((({} : Operator).pass later "default" "gw").run MemoryStore.handle
            (freshStore.insert .gateway namesakeGateway) = (some result, u) ∧
          (({} : Operator).pass later' "default" "gw-config").run MemoryStore.handle u =
            (some result', first) ∧
          MemoryStore.SameUpToTimes first t ∧
          AltersOnly "default" "gw" (freshStore.insert .gateway namesakeGateway) u) ∧
        ((({} : Operator).pass later' "default" "gw-config").run MemoryStore.handle
            (freshStore.insert .gateway namesakeGateway) = (some result', v) ∧
          (({} : Operator).pass later "default" "gw").run MemoryStore.handle v =
            (some result, second) ∧
          MemoryStore.SameUpToTimes second t ∧
          AltersOnly "default" "gw-config" (freshStore.insert .gateway namesakeGateway) v) :=
  have hgateway : Kind.WellFormed .gateway namesakeGateway :=
    ⟨ObjectMeta.wellFormed_of_carried_nil rfl, wellFormed_freshGateway.spec,
      by simp [namesakeGateway, freshGateway]⟩
  have hs : (freshStore.insert .gateway namesakeGateway).WellKeyed :=
    wellKeyed_freshStore.put hgateway
  interleave_pass {} {} hs (by decide)

end Operator

end GatewayOperator
