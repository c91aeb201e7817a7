import Mathlib

/-!
# Cache keys and the response cache

`fetchProjectData` caches a project's on-chain record for one chain under
`on:${projectId}:${chainId}` and its off-chain record under `off:${projectId}`, in the
module-level map `_cache`; `invalidateCache` deletes the off-chain key and every key that
starts with `on:${projectId}:` (`risk-engine.ts`, "Data Pipeline").

Project ids are arbitrary strings and may contain `:`. The chain id is rendered by the
template literal; what the keys need of that rendering is that it is injective and never
contains `:` (`ChainIdFormat`). The decimal rendering of natural numbers has both
properties (`decimalChainIds`). The key of an on-chain record is then split at its last
colon, so no two projects or chains share a key, and no off-chain key looks like an
on-chain one.
-/

namespace NovaFund.Pipeline

variable {C D : Type}

/-! ## Keys -/

/-- How a template literal renders a chain id: distinct ids render differently, and no
rendering contains a colon. -/
structure ChainIdFormat (C : Type) where
  render : C → String
  render_injective : Function.Injective render
  colon_not_mem : ∀ c, ':' ∉ (render c).data

/-- The key of a project's on-chain record, `on:${projectId}:${chainId}`. -/
def onChainKey (F : ChainIdFormat C) (projectId : String) (chainId : C) : String :=
  "on:" ++ projectId ++ ":" ++ F.render chainId

/-- The key of a project's off-chain record, `off:${projectId}`. -/
def offChainKey (projectId : String) : String := "off:" ++ projectId

/-- The prefix by which `invalidateCache` finds a project's on-chain keys,
`on:${projectId}:`. -/
def onChainPrefix (projectId : String) : String := "on:" ++ projectId ++ ":"

/-- `String.prototype.startsWith`, on the characters of both strings. -/
def startsWith (s pre : String) : Bool := pre.data.isPrefixOf s.data

/-- Two lists that end with a separator followed by a separator-free tail agree on both
sides of that last separator. -/
theorem append_cons_inj_of_not_mem {α : Type} {a : α} {ys ys' : List α} (hy : a ∉ ys)
    (hy' : a ∉ ys') : ∀ {xs xs' : List α}, xs ++ a :: ys = xs' ++ a :: ys' →
      xs = xs' ∧ ys = ys'
  | [], [], h => ⟨rfl, (List.cons.inj h).2⟩
  | [], b :: xs', h => by
    obtain ⟨rfl, rfl⟩ := List.cons.inj h
    exact absurd (List.mem_append_right _ (List.mem_cons_self _ _)) hy
  | b :: xs, [], h => by
    obtain ⟨rfl, rfl⟩ := List.cons.inj h
    exact absurd (List.mem_append_right _ (List.mem_cons_self _ _)) hy'
  | b :: xs, b' :: xs', h => by
    obtain ⟨rfl, ht⟩ := List.cons.inj h
    obtain ⟨rfl, rfl⟩ := append_cons_inj_of_not_mem hy hy' ht
    exact ⟨rfl, rfl⟩

theorem onChainKey_data (F : ChainIdFormat C) (p : String) (c : C) :
    (onChainKey F p c).data = ['o', 'n', ':'] ++ (p.data ++ ':' :: (F.render c).data) := by
  simp only [onChainKey, String.data_append, List.append_assoc]
  rfl

theorem offChainKey_data (p : String) : (offChainKey p).data = ['o', 'f', 'f', ':'] ++ p.data :=
  rfl

/-- A project id and a chain id are recovered from their on-chain key. -/
theorem onChainKey_inj (F : ChainIdFormat C) {p p' : String} {c c' : C}
    (h : onChainKey F p c = onChainKey F p' c') : p = p' ∧ c = c' := by
  have hd := congrArg String.data h
  rw [onChainKey_data, onChainKey_data, List.append_cancel_left_eq] at hd
  obtain ⟨hp, hc⟩ := append_cons_inj_of_not_mem (F.colon_not_mem c) (F.colon_not_mem c') hd
  exact ⟨String.ext hp, F.render_injective (String.ext hc)⟩

theorem offChainKey_inj {p p' : String} (h : offChainKey p = offChainKey p') : p = p' :=
  String.ext (List.append_cancel_left (congrArg String.data h))

/-- No on-chain key is an off-chain key: they differ in their second character. -/
theorem onChainKey_ne_offChainKey (F : ChainIdFormat C) (p q : String) (c : C) :
    onChainKey F p c ≠ offChainKey q := fun h => by
  have hd := congrArg String.data h
  rw [onChainKey_data, offChainKey_data] at hd
  simp at hd

theorem onChainKey_startsWith (F : ChainIdFormat C) (p : String) (c : C) :
    startsWith (onChainKey F p c) (onChainPrefix p) = true := by
  simp only [startsWith, List.isPrefixOf_iff_prefix, onChainKey, onChainPrefix]
  exact ⟨_, rfl⟩

/-- An off-chain key does not start with any project's on-chain prefix. -/
theorem offChainKey_not_startsWith (p q : String) :
    startsWith (offChainKey q) (onChainPrefix p) = false := by
  have hd : (onChainPrefix p).data = ['o', 'n', ':'] ++ (p.data ++ [':']) := by
    simp only [onChainPrefix, String.data_append, List.append_assoc]
  simp [startsWith, hd, offChainKey_data, List.isPrefixOf]

/-! ## Decimal chain ids -/

/-- The number a list of decimal digits denotes. -/
def decimalValue (ds : List Char) : ℕ := ds.foldl (fun n d => 10 * n + (d.toNat - 48)) 0

theorem digitChar_decimal :
    ∀ k < 10, (Nat.digitChar k).toNat - 48 = k ∧ Nat.digitChar k ≠ ':' := by
  decide

theorem decimalValue_toDigitsCore (ds : List Char) :
    ∀ f n, n < f → (Nat.toDigitsCore 10 f n ds).foldl (fun n d => 10 * n + (d.toNat - 48)) 0 =
      ds.foldl (fun n d => 10 * n + (d.toNat - 48)) n
  | 0, _, h => absurd h (Nat.not_lt_zero _)
  | f + 1, n, h => by
    have hd := (digitChar_decimal (n % 10) (Nat.mod_lt n (by decide))).1
    simp only [Nat.toDigitsCore]
    split
    · case isTrue h0 =>
      simp only [List.foldl_cons, hd]
      congr 1
      omega
    · case isFalse h0 =>
      rw [decimalValue_toDigitsCore (Nat.digitChar (n % 10) :: ds) f (n / 10) (by omega),
        List.foldl_cons, hd]
      congr 1
      omega

theorem colon_not_mem_toDigitsCore (ds : List Char) (hds : ':' ∉ ds) :
    ∀ f n, ':' ∉ Nat.toDigitsCore 10 f n ds
  | 0, _ => hds
  | f + 1, n => by
    have hd := (digitChar_decimal (n % 10) (Nat.mod_lt n (by decide))).2
    have hcons : ':' ∉ Nat.digitChar (n % 10) :: ds := by
      simpa [List.mem_cons, hds] using hd.symm
    simp only [Nat.toDigitsCore]
    split
    · exact hcons
    · exact colon_not_mem_toDigitsCore _ hcons f (n / 10)

/-- A character that is no decimal digit never occurs in a decimal rendering. -/
theorem not_mem_toDigitsCore {c : Char} (hc : ∀ k < 10, Nat.digitChar k ≠ c) (ds : List Char)
    (hds : c ∉ ds) : ∀ f n, c ∉ Nat.toDigitsCore 10 f n ds
  | 0, _ => hds
  | f + 1, n => by
    have hcons : c ∉ Nat.digitChar (n % 10) :: ds := by
      simpa [List.mem_cons, hds] using (hc (n % 10) (Nat.mod_lt n (by decide))).symm
    simp only [Nat.toDigitsCore]
    split
    · exact hcons
    · exact not_mem_toDigitsCore hc _ hcons f (n / 10)

theorem not_mem_repr {c : Char} (hc : ∀ k < 10, Nat.digitChar k ≠ c) (n : ℕ) :
    c ∉ (Nat.repr n).data :=
  not_mem_toDigitsCore hc [] (List.not_mem_nil _) _ n

/-- `${chainId}` for a chain id that is a natural number: its decimal digits. -/
def decimalChainIds : ChainIdFormat ℕ where
  render := Nat.repr
  render_injective := fun m n h => by
    have hv := congrArg (fun s => decimalValue (String.data s)) h
    simpa [Nat.repr, Nat.toDigits, decimalValue, List.asString,
      decimalValue_toDigitsCore [] _ _ (Nat.lt_succ_self _)] using hv
  colon_not_mem := fun n => colon_not_mem_toDigitsCore [] (List.not_mem_nil _) _ n

/-! ## The cache -/

/-- Whose data a fetcher fetches: the on-chain fetcher of a project on one chain, or the
off-chain fetcher of a project. -/
inductive Target (C : Type)
  | onChain (projectId : String) (chainId : C)
  | offChain (projectId : String)
  deriving DecidableEq

/-- The key under which `fetchProjectData` caches a target's data. -/
def Target.key (F : ChainIdFormat C) : Target C → String
  | .onChain p c => onChainKey F p c
  | .offChain p => offChainKey p

/-- The project a target belongs to. -/
def Target.projectId : Target C → String
  | .onChain p _ => p
  | .offChain p => p

/-- Distinct targets have distinct keys. -/
theorem Target.key_injective (F : ChainIdFormat C) : Function.Injective (Target.key F)
  | .onChain p c, .onChain p' c', h => by
    obtain ⟨rfl, rfl⟩ := onChainKey_inj F h
    rfl
  | .offChain p, .offChain p', h => by rw [offChainKey_inj h]
  | .onChain p c, .offChain p', h => absurd h (onChainKey_ne_offChainKey F p p' c)
  | .offChain p, .onChain p' c', h => absurd h.symm (onChainKey_ne_offChainKey F p' p c')

/-- A completed fetcher invocation (ghost state): the fetcher it ran, the ticks at which it
was called and at which it returned, and the data it returned. -/
structure FetchResult (C D : Type) where
  target : Target C
  startedAt : ℕ
  completedAt : ℕ
  data : D

/-- A value of `_cache`, `{ data, expiresAt }`, with the fetcher invocation that produced
it (ghost state). -/
structure Entry (C D : Type) where
  data : D
  expiresAt : ℕ
  src : FetchResult C D

/-- `_cache`: a `Map` lists its keys in insertion order, each once. -/
abbrev Cache (C D : Type) := List (String × Entry C D)

/-- `_cache.get(key)`. -/
def cacheGet (key : String) (cache : Cache C D) : Option (Entry C D) := cache.lookup key

/-- `_cache.set(key, entry)`: a present key keeps its place, a new key goes last. -/
def cacheSet (key : String) (e : Entry C D) : Cache C D → Cache C D
  | [] => [(key, e)]
  | (k, v) :: rest => if k = key then (k, e) :: rest else (k, v) :: cacheSet key e rest

/-- `_cache.delete(key)`. -/
def cacheDelete (key : String) (cache : Cache C D) : Cache C D :=
  cache.filter (fun kv => kv.1 ≠ key)

/-- `invalidateCache(projectId)`: delete the off-chain key, then every key of
`Array.from(_cache.keys())` that starts with the project's on-chain prefix. -/
def invalidateCache (projectId : String) (cache : Cache C D) : Cache C D :=
  let cache := cacheDelete (offChainKey projectId) cache
  ((cache.map Prod.fst).filter (fun k => startsWith k (onChainPrefix projectId))).foldl
    (fun c k => cacheDelete k c) cache

theorem mem_of_cacheGet {key : String} {e : Entry C D} {cache : Cache C D}
    (h : cacheGet key cache = some e) : (key, e) ∈ cache := by
  obtain ⟨l₁, l₂, rfl, -⟩ := List.lookup_eq_some_iff.mp h
  simp

theorem mem_cacheSet {key : String} {e : Entry C D} {x : String × Entry C D} :
    ∀ {cache : Cache C D}, x ∈ cacheSet key e cache → x ∈ cache ∨ x = (key, e)
  | [], h => .inr (List.mem_singleton.mp h)
  | (k, v) :: rest, h => by
    unfold cacheSet at h
    split at h
    · case isTrue hk =>
      subst hk
      rcases List.mem_cons.mp h with rfl | h
      · exact .inr rfl
      · exact .inl (List.mem_cons_of_mem _ h)
    · rcases List.mem_cons.mp h with rfl | h
      · exact .inl (List.mem_cons_self _ _)
      · exact (mem_cacheSet h).imp_left (List.mem_cons_of_mem _)

@[simp] theorem mem_cacheDelete {key : String} {x : String × Entry C D} {cache : Cache C D} :
    x ∈ cacheDelete key cache ↔ x ∈ cache ∧ x.1 ≠ key := by
  simp [cacheDelete]

theorem mem_foldl_cacheDelete {x : String × Entry C D} :
    ∀ {keys : List String} {cache : Cache C D},
      x ∈ keys.foldl (fun c k => cacheDelete k c) cache ↔ x ∈ cache ∧ x.1 ∉ keys
  | [], _ => by simp
  | k :: keys, _ => by
    rw [List.foldl_cons, mem_foldl_cacheDelete, mem_cacheDelete, List.mem_cons, not_or]
    tauto

/-- What `invalidateCache` keeps: the entries whose key is not the project's off-chain key
and does not start with its on-chain prefix. -/
theorem mem_invalidateCache {q : String} {x : String × Entry C D} {cache : Cache C D} :
    x ∈ invalidateCache q cache ↔
      x ∈ cache ∧ x.1 ≠ offChainKey q ∧ startsWith x.1 (onChainPrefix q) = false := by
  simp only [invalidateCache, mem_foldl_cacheDelete, mem_cacheDelete, List.mem_filter,
    List.mem_map]
  constructor
  · rintro ⟨⟨hx, hoff⟩, hon⟩
    refine ⟨hx, hoff, ?_⟩
    by_contra h
    exact hon ⟨⟨x, ⟨hx, hoff⟩, rfl⟩, by simpa using h⟩
  · rintro ⟨hx, hoff, hon⟩
    exact ⟨⟨hx, hoff⟩, fun ⟨_, h⟩ => by simp [hon] at h⟩

/-- `invalidateCache(q)` deletes the entry under `key`. -/
def Covers (q key : String) : Prop :=
  key = offChainKey q ∨ startsWith key (onChainPrefix q) = true

/-- `invalidateCache` deletes exactly the entries it covers. -/
theorem mem_invalidateCache_iff_not_covers {q : String} {x : String × Entry C D}
    {cache : Cache C D} : x ∈ invalidateCache q cache ↔ x ∈ cache ∧ ¬Covers q x.1 := by
  rw [mem_invalidateCache, Covers, not_or, Bool.not_eq_true]

/-- The invalidation of a project covers the keys of both of its fetchers. -/
theorem Target.covers_key (F : ChainIdFormat C) : ∀ t : Target C, Covers t.projectId (t.key F)
  | .onChain p c => .inr (onChainKey_startsWith F p c)
  | .offChain _ => .inl rfl

end NovaFund.Pipeline
