import EngineFit.Config.Store

/-!
# Layered settings as three maps

Seen through its layered interface, the configuration store is three finite maps from dotted
keys to values, the `package`, `engine` and `user` layers, and the name of an active engine,
if one is set. This module defines that store, `LayeredStore`, and the calls of the interface
on it:

* setting a key in a layer fails for an empty key, for a user override of a key within which
  no package or engine key lies, and for a name that names no layer; otherwise the key takes
  the value;
* unsetting a key removes from a layer the keys within it (all keys, for the empty key) and
  answers their number;
* activating an engine with its configurations and the keys of the previous engine's
  configurations makes the configurations the engine layer, drops the user overrides within
  those keys, and records the engine;
* setting the active engine records it; asking for it answers it, unless it is empty;
* the layered view within a key maps each key within it that some layer sets to the value of
  the highest layer setting it (`LayeredStore.get?_layered`).

The calls are a datatype, `LayerCall`, run both here and on a configuration store
(`ConfigStore.answerAll`), so that the two can be compared call by call.
-/

namespace EngineFit

/-! ### Keyed lists

A list of keyed entries read as a finite map: the value of a key is that of its first entry,
and giving a key a value replaces the value of its entries in place or appends an entry. The
layers of settings below are such lists, and so are the places of a file tree. -/

namespace Keyed

variable {α β : Type} [BEq α]

/-- The value of the first entry of a key. -/
def find (kvs : List (α × β)) (key : α) : Option β :=
  (kvs.find? (·.1 == key)).map (·.2)

/-- Gives a key a value: entries of the key keep their place; a key with none is appended. -/
def put (kvs : List (α × β)) (key : α) (v : β) : List (α × β) :=
  if kvs.any (·.1 == key) then kvs.map fun (k, old) => if k == key then (k, v) else (k, old)
  else kvs ++ [(key, v)]

@[simp] theorem find_nil (key : α) : find ([] : List (α × β)) key = none := rfl

theorem find_cons [LawfulBEq α] [DecidableEq α] (p : α × β) (kvs : List (α × β))
    (key : α) :
    find (p :: kvs) key = if p.1 = key then some p.2 else find kvs key := by
  by_cases h : p.1 = key <;> simp [find, h]

theorem find_append [LawfulBEq α] [DecidableEq α] (kvs kvs' : List (α × β)) (key : α) :
    find (kvs ++ kvs') key = (find kvs key).or (find kvs' key) := by
  induction kvs with
  | nil => simp
  | cons p kvs ih => by_cases h : p.1 = key <;> simp [find_cons, h, ih]

theorem find_eq_none [LawfulBEq α] [DecidableEq α] {kvs : List (α × β)} {key : α}
    (h : key ∉ kvs.map Prod.fst) :
    find kvs key = none := by
  induction kvs with
  | nil => rfl
  | cons p kvs ih =>
    simp only [List.map_cons, List.mem_cons, not_or] at h
    simp [find_cons, Ne.symm h.1, ih h.2]

/-- Replacing the value of the entries of a key. -/
theorem find_map_replace [LawfulBEq α] [DecidableEq α] (kvs : List (α × β)) (k x : α)
    (v : β) :
    find (kvs.map fun (k', old) => if k' == k then (k', v) else (k', old)) x =
      if x = k ∧ kvs.any (·.1 == k) then some v else find kvs x := by
  induction kvs with
  | nil => simp
  | cons p kvs ih =>
    obtain ⟨k', w⟩ := p
    rw [List.map_cons, find_cons, find_cons, ih]
    by_cases hk : k' = k
    · subst hk
      by_cases hx : x = k'
      · simp [hx]
      · simp [hx, Ne.symm hx]
    · by_cases hx : k' = x
      · have : x ≠ k := hx ▸ hk
        simp [hx, this]
      · have hkk : (k' == k) = false := by simp [hk]
        simp only [List.any_cons, hkk, Bool.false_or, Bool.false_eq_true, if_false, hx]

/-- **Giving a key a value.** The key has the value; every other key keeps its own. -/
theorem find_put [LawfulBEq α] [DecidableEq α] (kvs : List (α × β)) (k x : α) (v : β) :
    find (put kvs k v) x = if x = k then some v else find kvs x := by
  unfold put
  split
  · rename_i h
    rw [find_map_replace]
    by_cases hx : x = k <;> simp [hx, h]
  · rename_i h
    rw [find_append]
    by_cases hx : x = k
    · subst hx
      have : x ∉ kvs.map Prod.fst := by simpa using h
      simp [find_eq_none this, find_cons]
    · simp [hx, find_cons, Ne.symm hx]

/-- After giving a key a value, an entry is one from before or carries the value. -/
theorem mem_put [LawfulBEq α] {kvs : List (α × β)} {key : α} {v : β} {p : α × β}
    (h : p ∈ put kvs key v) : p ∈ kvs ∨ p.2 = v := by
  unfold put at h
  split at h
  · obtain ⟨q, hq, rfl⟩ := List.mem_map.1 h
    by_cases hk : q.1 == key
    · simp [hk]
    · simp [hk, hq]
  · rcases List.mem_append.1 h with h | h
    · exact .inl h
    · simp_all

/-- A key with no entry is appended. -/
theorem put_of_not_mem [LawfulBEq α] {kvs : List (α × β)} {key : α}
    (h : key ∉ kvs.map Prod.fst)
    (v : β) : put kvs key v = kvs ++ [(key, v)] := by
  have hany : kvs.any (·.1 == key) = false := by
    simpa [List.any_eq_false] using fun p hp hk => h (List.mem_map.2 ⟨p, hp, hk⟩)
  simp [put, hany]

theorem keys_put [LawfulBEq α] [DecidableEq α] (kvs : List (α × β)) (key : α) (v : β) :
    (put kvs key v).map Prod.fst =
      if kvs.any (·.1 == key) then kvs.map Prod.fst else kvs.map Prod.fst ++ [key] := by
  unfold put
  split
  · simp only [List.map_map]
    congr 1
    funext p
    by_cases h : p.1 = key <;> simp [h]
  · simp

/-- Giving a key a value keeps the keys distinct. -/
theorem nodup_keys_put [LawfulBEq α] [DecidableEq α] {kvs : List (α × β)}
    (h : (kvs.map Prod.fst).Nodup) (key : α) (v : β) :
    ((put kvs key v).map Prod.fst).Nodup := by
  rw [keys_put]
  split
  · exact h
  · rename_i hk
    refine List.nodup_append.2 ⟨h, by simp, ?_⟩
    intro k hk' b hb hkb
    obtain ⟨p, hp, rfl⟩ := List.mem_map.1 hk'
    rw [List.mem_singleton] at hb
    exact hk (List.any_eq_true.2 ⟨p, hp, by simp [hkb, hb]⟩)

theorem find_filter [LawfulBEq α] [DecidableEq α] (kvs : List (α × β)) (f : α → Bool)
    (x : α) :
    find (kvs.filter (f ·.1)) x = if f x then find kvs x else none := by
  induction kvs with
  | nil => simp
  | cons p kvs ih =>
    rw [List.filter_cons]
    by_cases hp : f p.1 <;> by_cases hx : p.1 = x <;> simp_all [find_cons]

end Keyed

/-! ### Layers of settings -/

/-- The settings of a layer: dotted keys, each once, with their values, in the order they were
first set. -/
@[ext]
structure Settings where
  toList : List (String × Value) := []
  distinct : (toList.map Prod.fst).Nodup := by simp

namespace Settings

/-- The value of a key. -/
def get? (s : Settings) (key : String) : Option Value := Keyed.find s.toList key

/-- Sets a key; a key set already keeps its place. -/
def put (s : Settings) (key : String) (v : Value) : Settings :=
  ⟨Keyed.put s.toList key v, Keyed.nodup_keys_put s.distinct key v⟩

/-- The settings of `top` put over those of `below`, in order. -/
def overlay (top below : Settings) : Settings :=
  top.toList.foldl (fun acc p => acc.put p.1 p.2) below

theorem distinct_filter (s : Settings) (f : String × Value → Bool) :
    ((s.toList.filter f).map Prod.fst).Nodup :=
  s.distinct.sublist ((List.filter_sublist).map _)

/-- The settings whose keys lie within `key`. -/
def within (s : Settings) (key : String) : Settings :=
  ⟨s.toList.filter (keyWithin ·.1 key), distinct_filter s _⟩

/-- The settings whose keys lie within none of `keys`. -/
def outside (s : Settings) (keys : List String) : Settings :=
  ⟨s.toList.filter fun p => !keys.any (keyWithin p.1 ·), distinct_filter s _⟩

/-- The settings as the entries of a document mapping. -/
def entries (s : Settings) : List (Value × Value) :=
  s.toList.map fun p => (.str p.1, p.2)

@[simp] theorem get?_put (s : Settings) (k x : String) (v : Value) :
    (s.put k v).get? x = if x = k then some v else s.get? x :=
  Keyed.find_put s.toList k x v

theorem get?_foldl_put {top : List (String × Value)} (htop : (top.map Prod.fst).Nodup)
    (below : Settings) (x : String) :
    (top.foldl (fun acc p => acc.put p.1 p.2) below).get? x =
      (Keyed.find top x).or (below.get? x) := by
  induction top generalizing below with
  | nil => simp
  | cons p top ih =>
    rw [List.map_cons, List.nodup_cons] at htop
    rw [List.foldl_cons, ih htop.2, get?_put, Keyed.find_cons]
    by_cases h : x = p.1
    · subst h
      simp [Keyed.find_eq_none htop.1]
    · simp [h, Ne.symm h]

/-- **Settings put over others.** A key of `top` has its value there, any other key its value
below. -/
@[simp] theorem get?_overlay (top below : Settings) (x : String) :
    (top.overlay below).get? x = (top.get? x).or (below.get? x) :=
  get?_foldl_put top.distinct below x

@[simp] theorem get?_within (s : Settings) (key x : String) :
    (s.within key).get? x = if keyWithin x key then s.get? x else none :=
  Keyed.find_filter s.toList (keyWithin · key) x

/-- Settings with keys none of which `below` sets are put over it by appending them. -/
theorem toList_foldl_put {top : List (String × Value)} {below : Settings}
    (h : (below.toList.map Prod.fst ++ top.map Prod.fst).Nodup) :
    (top.foldl (fun acc p => acc.put p.1 p.2) below).toList = below.toList ++ top := by
  induction top generalizing below with
  | nil => simp
  | cons p top ih =>
    have hp : p.1 ∉ below.toList.map Prod.fst := fun hm =>
      (List.nodup_append.1 h).2.2 _ hm _ List.mem_cons_self rfl
    have hput : (below.put p.1 p.2).toList = below.toList ++ [p] :=
      Keyed.put_of_not_mem hp p.2
    rw [List.foldl_cons, ih (by simpa [hput] using h), hput, List.append_assoc,
      List.singleton_append]

/-- Settings put over none are themselves. -/
@[simp] theorem overlay_empty (s : Settings) : s.overlay {} = s := by
  ext1
  exact toList_foldl_put (by simpa using s.distinct)

@[simp] theorem outside_nil (s : Settings) : s.outside [] = s := by
  ext1
  simp [outside]

/-- Dropping the keys within one key, then those within others, drops those within all. -/
theorem outside_outside (s : Settings) (key : String) (keys : List String) :
    (s.outside [key]).outside keys = s.outside (key :: keys) := by
  ext1
  simp only [outside, List.filter_filter, List.any_cons, List.any_nil, Bool.or_false,
    Bool.not_or]
  congr 1
  funext p
  exact Bool.and_comm _ _

/-- The keys within a key and those outside it make up the settings. -/
theorem length_within_add_outside (s : Settings) (key : String) :
    (s.within key).toList.length + (s.outside [key]).toList.length = s.toList.length := by
  simp only [within, outside, List.any_cons, List.any_nil, Bool.or_false,
    ← List.countP_eq_length_filter]
  rw [List.length_eq_countP_add_countP (keyWithin ·.1 key)]
  simp

/-- Settings with no key within a key are what is left outside it. -/
theorem outside_eq_self {s : Settings} {key : String} (h : (s.within key).toList.length = 0) :
    s.outside [key] = s := by
  ext1
  have hnone : ∀ p ∈ s.toList, keyWithin p.1 key = false := by
    simpa [within, List.filter_eq_nil_iff] using h
  simp only [outside, List.any_cons, List.any_nil, Bool.or_false]
  exact List.filter_eq_self.2 fun p hp => by simp [hnone p hp]

end Settings

/-- The layered settings and the active engine. -/
structure LayeredStore where
  package : Settings := {}
  engine : Settings := {}
  user : Settings := {}
  active : Option String := none

/-- A call of the layered configuration interface. -/
inductive LayerCall where
  /-- Sets a key in the layer of a name. -/
  | setValue (key : String) (v : Value) (layerName : String)
  /-- Removes the keys within a key from the layer of a name. -/
  | unset (key : String) (layerName : String)
  /-- Activates an engine with its configurations, given the keys of the previous engine's
  configurations. -/
  | activate (name : String) (configurations : Settings) (previous : List String)
  /-- Records the active engine. -/
  | setActive (name : String)
  /-- Asks for the active engine. -/
  | getActive
  /-- Asks for the layered view within a key. -/
  | layered (key : String)

/-- What a call answers: nothing, a number of keys removed, the active engine, the layered
view, or the failure. -/
inductive LayerAnswer where
  | done
  | removed (n : Nat)
  | active (name : Option Value)
  | view (entries : List (Value × Value))
  | failed (e : ConfigError)

namespace LayeredStore

/-- The settings of a layer. -/
def layer (s : LayeredStore) : Layer → Settings
  | .package => s.package
  | .engine => s.engine
  | .user => s.user

/-- Replaces the settings of a layer. -/
def setLayer (s : LayeredStore) (l : Layer) (kvs : Settings) : LayeredStore :=
  match l with
  | .package => { s with package := kvs }
  | .engine => { s with engine := kvs }
  | .user => { s with user := kvs }

@[simp] theorem layer_setLayer (s : LayeredStore) (l l' : Layer) (kvs : Settings) :
    (s.setLayer l kvs).layer l' = if l' = l then kvs else s.layer l' := by
  cases l <;> cases l' <;> rfl

@[simp] theorem active_setLayer (s : LayeredStore) (l : Layer) (kvs : Settings) :
    (s.setLayer l kvs).active = s.active := by
  cases l <;> rfl

@[simp] theorem setLayer_layer (s : LayeredStore) (l : Layer) : s.setLayer l (s.layer l) = s := by
  cases l <;> rfl

/-- Whether the package or engine layer has a key within `key`. -/
def definedBelowUser (s : LayeredStore) (key : String) : Bool :=
  s.package.toList.any (keyWithin ·.1 key) || s.engine.toList.any (keyWithin ·.1 key)

/-- Sets a key in the layer of a name. -/
def setValue (s : LayeredStore) (key : String) (v : Value) (layerName : String) :
    Except ConfigError LayeredStore :=
  if key.isEmpty then .error .emptyKey
  else if layerName = "user" ∧ s.definedBelowUser key = false then .error (.unknownKey key)
  else match Layer.ofName? layerName with
    | some l => .ok (s.setLayer l ((s.layer l).put key v))
    | none => .error (.unknownLayer layerName)

/-- Removes the keys within `key` from the layer of a name; the number removed. -/
def unset (s : LayeredStore) (key layerName : String) : Except ConfigError (Nat × LayeredStore) :=
  match Layer.ofName? layerName with
  | some l => .ok (((s.layer l).within key).toList.length, s.setLayer l ((s.layer l).outside [key]))
  | none => .error (.unknownLayer layerName)

/-- Activates an engine: its configurations become the engine layer, the user overrides within
the previous engine's keys are dropped, and the engine is recorded. -/
def activate (s : LayeredStore) (name : String) (configurations : Settings)
    (previous : List String) : Except ConfigError LayeredStore :=
  if name.isEmpty then .error .emptyEngineName
  else .ok { s with engine := configurations, user := s.user.outside previous, active := some name }

/-- Records the active engine. -/
def setActive (s : LayeredStore) (name : String) : Except ConfigError LayeredStore :=
  if name.isEmpty then .error .emptyEngineName else .ok { s with active := some name }

/-- The active engine, unless it is unset or empty. -/
def activeEngine (s : LayeredStore) : Option String :=
  s.active.filter (!·.isEmpty)

/-- The layered view within `key`: the user layer over the engine layer over the package
layer, each key with the value of the highest layer that sets it. -/
def layered (s : LayeredStore) (key : String) : Settings :=
  (s.user.overlay (s.engine.overlay s.package)).within key

/-- **The layered view.** A key within `key` has the value of the user layer, else of the engine
layer, else of the package layer; a key outside `key` has none. -/
theorem get?_layered (s : LayeredStore) (key x : String) :
    (s.layered key).get? x =
      if keyWithin x key then ((s.user.get? x).or (s.engine.get? x)).or (s.package.get? x)
      else none := by
  simp [layered, Option.or_assoc]

/-- Answers a call, and the store after it; a failed call leaves the store as it was. -/
def answer (s : LayeredStore) : LayerCall → LayerAnswer × LayeredStore
  | .setValue key v layerName =>
    match s.setValue key v layerName with
    | .ok s' => (.done, s')
    | .error e => (.failed e, s)
  | .unset key layerName =>
    match s.unset key layerName with
    | .ok (n, s') => (.removed n, s')
    | .error e => (.failed e, s)
  | .activate name configurations previous =>
    match s.activate name configurations previous with
    | .ok s' => (.done, s')
    | .error e => (.failed e, s)
  | .setActive name =>
    match s.setActive name with
    | .ok s' => (.done, s')
    | .error e => (.failed e, s)
  | .getActive => (.active (s.activeEngine.map .str), s)
  | .layered key => (.view (s.layered key).entries, s)

/-- Answers calls in order. -/
def answerAll (s : LayeredStore) : List LayerCall → List LayerAnswer × LayeredStore
  | [] => ([], s)
  | call :: calls =>
    let (a, s') := s.answer call
    let (as, s'') := s'.answerAll calls
    (a :: as, s'')

end LayeredStore

/-- A call of the layered interface on a configuration store. -/
def LayerCall.perform : LayerCall → ConfigM LayerAnswer
  | .setValue key v layerName => do
    ConfigStore.setLayerValue key v layerName
    pure .done
  | .unset key layerName => .removed <$> ConfigStore.unsetLayerValue key layerName
  | .activate name configurations previous => do
    ConfigStore.activateEngine (.str name) (.dict (Settings.entries configurations))
      (.list (previous.map .str))
    pure .done
  | .setActive name => do
    ConfigStore.setActiveEngine (.str name)
    pure .done
  | .getActive => .active <$> ConfigStore.activeEngine
  | .layered key => .view <$> ConfigStore.layered key

namespace ConfigStore

/-- Answers a call on a configuration store, and the store after it. -/
def answer (c : ConfigStore) (call : LayerCall) : LayerAnswer × ConfigStore :=
  match call.perform.run.run c with
  | (.ok a, c') => (a, c')
  | (.error e, c') => (.failed e, c')

/-- Answers calls in order on a configuration store. -/
def answerAll (c : ConfigStore) : List LayerCall → List LayerAnswer × ConfigStore
  | [] => ([], c)
  | call :: calls =>
    let (a, c') := c.answer call
    let (as, c'') := c'.answerAll calls
    (a :: as, c'')

end ConfigStore

end EngineFit
