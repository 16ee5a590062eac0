import EngineFit.Config.Layered

/-!
# User overrides and the layers below them

The user layer admits an override only of a key within which a package or engine key lies
(`LayeredStore.setValue`). This module settles when every user override stays so backed along
the calls of the layered interface that leave the lower layers to sets and activations: sets
on any layer, unsets of the user layer, and activations.

Sets and unsets keep every override backed. An activation drops the overrides within the
previous engine's keys and keeps the others, and it keeps them backed exactly when each of
them has a package key or a key of the new configurations within it
(`backed_activate_iff`). A parent of a previous engine key lies within no previous key, so an
override of it survives the activation; where nothing else backs it, it is left with nothing
below (`activate_orphans_parent_override`). Along a whole run every state is backed exactly
when each activation on it backs again the overrides it keeps (`userOverrides_backed_iff`).
-/

namespace EngineFit

/-- Giving a key a value keeps every key that had one. -/
theorem Settings.any_put {s : Settings} (f : String → Bool) (h : s.toList.any (f ·.1) = true)
    (k : String) (v : Value) : (s.put k v).toList.any (f ·.1) = true := by
  obtain ⟨p, hp, hf⟩ := List.any_eq_true.1 h
  have hkey : p.1 ∈ (s.put k v).toList.map Prod.fst := by
    simp only [put, Keyed.keys_put]
    split <;> simp [List.mem_map_of_mem hp]
  obtain ⟨q, hq, hqp⟩ := List.mem_map.1 hkey
  exact List.any_eq_true.2 ⟨q, hq, hqp ▸ hf⟩

/-- After giving a key a value, every key is one from before or the key given. -/
theorem Settings.mem_put_key {s : Settings} {k : String} {v : Value} {p : String × Value}
    (h : p ∈ (s.put k v).toList) : (∃ q ∈ s.toList, q.1 = p.1) ∨ p.1 = k := by
  have hkey : p.1 ∈ (s.put k v).toList.map Prod.fst := List.mem_map_of_mem h
  simp only [put, Keyed.keys_put] at hkey
  split at hkey <;> simp_all [List.mem_map]

theorem Layer.ofName?_eq_user {name : String} (h : Layer.ofName? name = some .user) :
    name = "user" := by
  have hfind := List.find?_some h
  exact (by simpa [Layer.name] using hfind : "user" = name).symm

namespace LayeredStore

/-! ### Backed overrides -/

/-- Every user override is backed: a package or engine key lies within its key. -/
def Backed (a : LayeredStore) : Prop := ∀ p ∈ a.user.toList, a.definedBelowUser p.1 = true

/-- An activation from `a` with `configurations` and the previous engine's keys `previous`
backs again the overrides it keeps: each user key within none of `previous` has a package key
or a key of `configurations` within it. -/
def Rebacks (a : LayeredStore) (configurations : Settings) (previous : List String) : Prop :=
  ∀ p ∈ a.user.toList, previous.any (keyWithin p.1 ·) = false →
    { a with engine := configurations }.definedBelowUser p.1 = true

/-- Backing depends on the layers alone, not on the active engine. -/
theorem backed_active (a : LayeredStore) (name : Option String) :
    { a with active := name }.Backed ↔ a.Backed := Iff.rfl

/-- Setting a key in the package or engine layer keeps every override backed. -/
theorem Backed.definedBelowUser_put {a : LayeredStore} {l : Layer} (hl : l ≠ .user)
    (key : String) (v : Value) (x : String) (hx : a.definedBelowUser x = true) :
    (a.setLayer l ((a.layer l).put key v)).definedBelowUser x = true := by
  cases l with
  | package =>
    simp only [definedBelowUser, setLayer, layer, Bool.or_eq_true] at hx ⊢
    exact hx.imp (fun h => Settings.any_put (keyWithin · x) h key v) id
  | engine =>
    simp only [definedBelowUser, setLayer, layer, Bool.or_eq_true] at hx ⊢
    exact hx.imp id (fun h => Settings.any_put (keyWithin · x) h key v)
  | user => exact absurd rfl hl

/-- **Setting a key** in any layer keeps every override backed: a lower layer only gains keys,
and a user key is admitted only when a lower key lies within it. -/
theorem Backed.setValue {a a' : LayeredStore} (ha : a.Backed) {key : String} {v : Value}
    {layerName : String} (h : a.setValue key v layerName = .ok a') : a'.Backed := by
  unfold LayeredStore.setValue at h
  split at h
  · cases h
  split at h
  · cases h
  rename_i hadmit
  split at h
  · rename_i l hl
    cases h
    by_cases hu : l = .user
    · -- the new override is of a key the admission check found backed
      subst hu
      have hkey : a.definedBelowUser key = true := by
        simpa [Layer.ofName?_eq_user hl] using hadmit
      intro p hp
      rcases Settings.mem_put_key hp with ⟨q, hq, hqp⟩ | hpk
      · exact hqp ▸ ha q hq
      · exact hpk ▸ hkey
    · intro p hp
      have hp' : p ∈ a.user.toList := by
        cases l <;> simp_all [setLayer, layer]
      exact Backed.definedBelowUser_put hu key v p.1 (ha p hp')
  · cases h

/-- **Unsetting user keys** keeps the others backed. -/
theorem Backed.unset {a : LayeredStore} (ha : a.Backed) (key : String) :
    ∀ r, a.unset key "user" = .ok r → r.2.Backed := by
  intro r h
  have hname : Layer.ofName? "user" = some .user := rfl
  simp only [LayeredStore.unset, hname, Except.ok.injEq] at h
  subst h
  intro p hp
  simp only [setLayer, layer, Settings.outside, List.mem_filter] at hp
  exact ha p hp.1

/-- **Activating an engine** keeps every override backed exactly when it backs again the
overrides it keeps. -/
theorem backed_activate_iff {a a' : LayeredStore} {name : String} {configurations : Settings}
    {previous : List String} (h : a.activate name configurations previous = .ok a') :
    a'.Backed ↔ a.Rebacks configurations previous := by
  unfold activate at h
  split at h
  · cases h
  cases h
  simp only [Backed, Rebacks, Settings.outside, List.mem_filter, Bool.not_eq_eq_eq_not,
    Bool.not_true, and_imp]
  rfl

end LayeredStore

/-! ### Runs -/

/-- The calls that leave the lower layers to sets and activations: every call but an unset of
the package or engine layer. -/
def LayerCall.KeepsLower : LayerCall → Prop
  | .unset _ layerName => layerName = "user"
  | _ => True

instance : DecidablePred LayerCall.KeepsLower := fun call => by
  cases call <;> unfold LayerCall.KeepsLower <;> infer_instance

/-- A call from `a` backs again the overrides it keeps: an activation that succeeds must, every
other call does. -/
def LayerCall.Rebacks (a : LayeredStore) : LayerCall → Prop
  | .activate name configurations previous =>
    name.isEmpty = false → a.Rebacks configurations previous
  | _ => True

namespace LayeredStore

instance : DecidablePred Backed := fun a =>
  inferInstanceAs (Decidable (∀ p ∈ a.user.toList, a.definedBelowUser p.1 = true))

/-- The stores a run of calls passes through, the first and the last included. -/
def trace (a : LayeredStore) : List LayerCall → List LayeredStore
  | [] => [a]
  | call :: calls => a :: (a.answer call).2.trace calls

theorem mem_trace_self (a : LayeredStore) (calls : List LayerCall) : a ∈ a.trace calls := by
  cases calls <;> simp [trace]

/-- Each call of a run backs again the overrides it keeps, from the store it is made on. -/
def RebacksAlong : LayeredStore → List LayerCall → Prop
  | _, [] => True
  | a, call :: calls => call.Rebacks a ∧ RebacksAlong (a.answer call).2 calls

/-- **One call.** From a store whose overrides are backed, a call that leaves the lower layers to
sets and activations keeps them backed exactly when it backs again those it keeps. -/
theorem backed_answer_iff {a : LayeredStore} (ha : a.Backed) {call : LayerCall}
    (hc : call.KeepsLower) : (a.answer call).2.Backed ↔ call.Rebacks a := by
  cases call with
  | setValue key v layerName =>
    cases hs : a.setValue key v layerName with
    | ok a' => simpa [answer, hs, LayerCall.Rebacks] using ha.setValue hs
    | error e => simpa [answer, hs, LayerCall.Rebacks] using ha
  | unset key layerName =>
    have hname : layerName = "user" := hc
    subst hname
    cases hs : a.unset key "user" with
    | ok r => simpa [answer, hs, LayerCall.Rebacks] using ha.unset key r hs
    | error e => simpa [answer, hs, LayerCall.Rebacks] using ha
  | activate name configurations previous =>
    cases hn : name.isEmpty with
    | true =>
      have hs : a.activate name configurations previous = .error .emptyEngineName := by
        simp [activate, hn]
      simpa [answer, hs, LayerCall.Rebacks, hn] using ha
    | false =>
      have hs : a.activate name configurations previous =
          .ok { a with engine := configurations, user := a.user.outside previous,
                       active := some name } := by
        simp [activate, hn]
      simpa [answer, hs, LayerCall.Rebacks, hn] using backed_activate_iff hs
  | setActive name =>
    cases hs : a.setActive name with
    | ok a' =>
      have ha' : a' = { a with active := some name } := by
        by_cases hn : name.isEmpty <;> simp_all [LayeredStore.setActive]
      simp only [answer, hs, LayerCall.Rebacks, iff_true, ha']
      exact (backed_active a (some name)).2 ha
    | error e => simpa [answer, hs, LayerCall.Rebacks] using ha
  | getActive => simpa [answer, LayerCall.Rebacks] using ha
  | layered key => simpa [answer, LayerCall.Rebacks] using ha

/-- **A run.** From a store whose overrides are backed, along a run of calls that leave the
lower layers to sets and activations, every store is backed exactly when each call backs again
the overrides it keeps. -/
theorem backed_trace_iff {a : LayeredStore} (ha : a.Backed) {calls : List LayerCall}
    (hc : ∀ call ∈ calls, call.KeepsLower) :
    (∀ s ∈ a.trace calls, s.Backed) ↔ a.RebacksAlong calls := by
  -- induction over the calls, from the store each call is made on
  induction calls generalizing a with
  | nil => simpa [trace, RebacksAlong] using ha
  | cons call calls ih =>
    have hstep := backed_answer_iff ha (hc call (by simp))
    have hrest : ∀ call' ∈ calls, call'.KeepsLower := fun call' h => hc call' (by simp [h])
    simp only [trace, List.mem_cons, forall_eq_or_imp, RebacksAlong]
    constructor
    · rintro ⟨-, hall⟩
      have hnext : (a.answer call).2.Backed := hall _ (mem_trace_self _ _)
      exact ⟨hstep.1 hnext, (ih hnext hrest).1 hall⟩
    · rintro ⟨hcall, halong⟩
      have hnext : (a.answer call).2.Backed := hstep.2 hcall
      exact ⟨ha, (ih hnext hrest).2 halong⟩

end LayeredStore

/-- **Backed user overrides.** Along every run from the empty store by sets on any layer,
unsets of the user layer and activations, every user override is backed by a package or engine
key within it exactly when each activation on the run backs again the overrides it keeps. -/
theorem userOverrides_backed_iff (calls : List LayerCall)
    (hc : ∀ call ∈ calls, call.KeepsLower) :
    (∀ s ∈ ({} : LayeredStore).trace calls, s.Backed) ↔
      ({} : LayeredStore).RebacksAlong calls :=
  LayeredStore.backed_trace_iff (fun p hp => by simp at hp) hc

/-- A run that overrides the parent `server` of an engine key `server.port` and then activates
another engine, with the previous engine's keys. -/
def parentOverrideRun : List LayerCall :=
  [.setValue "server.port" (.int 8080) "engine", .setValue "server" (.str "custom") "user",
    .activate "next" {} ["server.port"]]

theorem userOverrides_backed_iff_parentOverride :
    (∀ call ∈ parentOverrideRun, call.KeepsLower) ∧
      ((∀ s ∈ ({} : LayeredStore).trace parentOverrideRun, s.Backed) ↔
        ({} : LayeredStore).RebacksAlong parentOverrideRun) :=
  ⟨by decide, userOverrides_backed_iff parentOverrideRun (by decide)⟩

/-- **An orphaned override.** The activation in `parentOverrideRun` is given the engine layer's
keys as the previous keys, yet it keeps the user override of `server`, within no previous key,
and leaves no package or engine key within it. -/
theorem activate_orphans_parent_override :
    (({} : LayeredStore).answerAll (parentOverrideRun.take 2)).2.engine.toList.map Prod.fst =
        ["server.port"] ∧
      (({} : LayeredStore).answerAll parentOverrideRun).2.user.toList.map Prod.fst = ["server"] ∧
      (({} : LayeredStore).answerAll parentOverrideRun).2.definedBelowUser "server" = false ∧
      ¬ ∀ s ∈ ({} : LayeredStore).trace parentOverrideRun, s.Backed := by
  decide

end EngineFit
