import AccessControl.Proofs.DecisionCache
import Mathlib.Data.List.Dedup

namespace AccessControl.DecisionCache

/-! A cache recalls a decision if and only if few enough other keys were used since the key
was used last. What was used when is told by the history of the cache. -/

inductive Use
  | get (key : String)
  | put (key : String) (decision : Bool)
  | invalidate
deriving DecidableEq, Repr

def use (cache : DecisionCache) : Use → Option Bool × DecisionCache
  | .get key => cache.get key
  | .put key decision => (none, cache.put key decision)
  | .invalidate => (none, cache.invalidate)

abbrev Event := Use × Option Bool

/-- A cache and what was done with it, the latest use first. -/
structure Record where
  cache : DecisionCache
  history : List Event

def Record.after (record : Record) (use : Use) : Record :=
  let (answer, cache) := record.cache.use use
  ⟨cache, (use, answer) :: record.history⟩

def run (cache : DecisionCache) (uses : List Use) : Record :=
  uses.foldl Record.after ⟨cache, []⟩

/-- The key that was put, or asked for with success. -/
def Event.used? : Event → Option String
  | (.put key _, _) => some key
  | (.get key, some _) => some key
  | _ => none

def Event.put? (key : String) : Event → Option Bool
  | (.put other decision, _) => if other = key then some decision else none
  | _ => none

def sinceInvalidation (history : List Event) : List Event :=
  history.takeWhile fun event => event.1 != .invalidate

def latestPut? (key : String) (history : List Event) : Option Bool :=
  (sinceInvalidation history).findSome? (Event.put? key)

def othersSince (key : String) (history : List Event) : List String :=
  ((history.takeWhile fun event => event.used? != some key).filterMap Event.used?).dedup

def touch (key : String) (decision : Bool) (entries : Entries String Bool) :
    Entries String Bool :=
  (key, decision) :: entries.filter fun entry => entry.1 != key

/-- The decisions that a cache without a limit holds, the one used last first. -/
def lately : List Event → Entries String Bool
  | [] => []
  | (.invalidate, _) :: _ => []
  | (.put key decision, _) :: history => touch key decision (lately history)
  | (.get key, some decision) :: history => touch key decision (lately history)
  | (.get _, none) :: history => lately history

def cut (limit : Option Nat) (entries : Entries String Bool) : Entries String Bool :=
  match limit with
  | none => entries
  | some limit => entries.take limit

section

variable {key other : String} {decision : Bool} {entries : Entries String Bool}

theorem keys_touch (key : String) (decision : Bool) (entries : Entries String Bool) :
    Entries.keys (touch key decision entries) =
      key :: (Entries.keys entries).filter (· != key) := by
  rw [touch, Entries.keys, List.map_cons, Entries.keys, List.filter_map]
  rfl

theorem nodup_keys_touch (nodup : (Entries.keys entries).Nodup) :
    (Entries.keys (touch key decision entries)).Nodup := by
  rw [keys_touch]
  exact List.nodup_cons.mpr ⟨by simp, nodup.filter _⟩

theorem lookup_touch_self : (touch key decision entries).lookup key = some decision :=
  List.lookup_cons_self

theorem lookup_touch_of_ne (different : other ≠ key) :
    (touch key decision entries).lookup other = entries.lookup other := by
  have differs : (other == key) = false := by simpa using different
  have kept : (other != key) = true := by simpa using different
  rw [touch, List.lookup_cons, differs]
  exact @Entries.lookup_filter _ _ _ _ (· != key) other kept entries

theorem nodup_keys_lately (history : List Event) : (Entries.keys (lately history)).Nodup := by
  induction history with
  | nil => exact List.nodup_nil
  | cons event history ih =>
      obtain ⟨use, answer⟩ := event
      cases use with
      | invalidate => exact List.nodup_nil
      | put key decision => exact nodup_keys_touch ih
      | get key =>
          cases answer with
          | none => exact ih
          | some decision => exact nodup_keys_touch ih

theorem length_le_filter (nodup : (Entries.keys entries).Nodup) (key : String) :
    entries.length ≤ (entries.filter fun entry => entry.1 != key).length + 1 := by
  have once : entries.countP (fun entry => entry.1 == key) ≤ 1 := by
    have counted := List.nodup_iff_count_le_one.mp nodup key
    rwa [Entries.keys, List.count, List.countP_map] at counted
  have whole := List.length_eq_countP_add_countP (fun entry : String × Bool => entry.1 == key)
    (l := entries)
  rw [← List.countP_eq_length_filter]
  simp only [bne, decide_not, Bool.decide_eq_true] at whole ⊢
  omega

/-- The last one to be cut off may as well be cut off before a key is touched. -/
theorem take_touch (nodup : (Entries.keys entries).Nodup) (limit : Nat) :
    (touch key decision (entries.take limit)).take limit =
      (touch key decision entries).take limit := by
  cases limit with
  | zero => rfl
  | succ limit =>
      rw [touch, touch, List.take_succ_cons, List.take_succ_cons]
      refine congrArg _ ?_
      rcases Nat.le_total entries.length (limit + 1) with short | long
      · rw [List.take_of_length_le short]
      · have nodupFirst : (Entries.keys (entries.take (limit + 1))).Nodup := by
          rw [Entries.keys, List.map_take]
          exact (List.take_sublist _ _).nodup nodup
        have enough := length_le_filter nodupFirst key
        rw [List.length_take_of_le long] at enough
        conv_rhs => rw [← List.take_append_drop (limit + 1) entries]
        rw [List.filter_append, List.take_append_of_le_length (by omega)]

theorem lookup_take (key : String) (entries : Entries String Bool) (limit : Nat) :
    (entries.take limit).lookup key =
      if ((Entries.keys entries).takeWhile (· != key)).length < limit then entries.lookup key
      else none := by
  induction entries generalizing limit with
  | nil => simp
  | cons entry entries ih =>
      cases limit with
      | zero => simp
      | succ limit =>
          rw [List.take_succ_cons, List.lookup_cons, List.lookup_cons, Entries.keys,
            List.map_cons, List.takeWhile_cons]
          by_cases same : entry.1 = key
          · simp [same]
          · have differs : (key == entry.1) = false := by simpa using Ne.symm same
            have kept : (entry.1 != key) = true := by simpa using same
            rw [differs, kept, if_pos rfl, List.length_cons, ih limit]
            simp only [Nat.add_lt_add_iff_right]
            rfl

theorem lookup_reverse (nodup : (Entries.keys entries).Nodup) (key : String) :
    entries.reverse.lookup key = entries.lookup key := by
  have nodupToo : (Entries.keys entries.reverse).Nodup := by
    rw [Entries.keys, List.map_reverse]
    exact List.nodup_reverse.mpr nodup
  cases found : entries.lookup key with
  | some decision =>
      have member := List.mem_reverse.mpr (Entries.mem_of_lookup found)
      exact Entries.lookup_of_mem nodupToo member
  | none =>
      cases foundToo : entries.reverse.lookup key with
      | none => rfl
      | some decision =>
          have member := List.mem_reverse.mp (Entries.mem_of_lookup foundToo)
          rw [Entries.lookup_of_mem nodup member] at found
          cases found

theorem nodup_keys_cut (limit : Option Nat) (nodup : (Entries.keys entries).Nodup) :
    (Entries.keys (cut limit entries)).Nodup := by
  cases limit with
  | none => exact nodup
  | some limit =>
      rw [cut, Entries.keys, List.map_take]
      exact (List.take_sublist _ _).nodup nodup

theorem cut_touch (limit : Option Nat) (nodup : (Entries.keys entries).Nodup) :
    cut limit (touch key decision (cut limit entries)) =
      cut limit (touch key decision entries) := by
  cases limit with
  | none => rfl
  | some limit => exact take_touch nodup limit

theorem reverse_touched (entries : Entries String Bool) (key : String) (decision : Bool) :
    (touched entries key decision).reverse = touch key decision entries.reverse := by
  rw [touched, List.reverse_append, ← List.filter_reverse]
  rfl

/-- A full cache loses the entry that was used longest ago. -/
theorem reverse_trimmedTo {limit : Option Nat}
    (fits : ∀ most ∈ limit, entries.length ≤ most + 1) :
    (trimmedTo limit entries).reverse = cut limit entries.reverse := by
  cases limit with
  | none => rfl
  | some limit =>
      have almost := fits limit rfl
      rw [trimmedTo, cut]
      split
      · have exceeds : entries.length - 1 = limit := by omega
        rw [List.reverse_drop, exceeds]
      · rw [List.take_of_length_le (by rw [List.length_reverse]; omega)]

theorem length_touch_le (entries : Entries String Bool) (key : String) (decision : Bool) :
    (touch key decision entries).length ≤ entries.length + 1 := by
  rw [touch, List.length_cons]
  exact Nat.succ_le_succ (List.length_filter_le _ _)

theorem cut_nil (limit : Option Nat) : cut limit [] = [] := by
  cases limit with
  | none => rfl
  | some limit => exact List.take_nil

theorem cut_of_short {limit : Option Nat} (fits : ∀ most ∈ limit, entries.length ≤ most) :
    cut limit entries = entries := by
  cases limit with
  | none => rfl
  | some limit => exact List.take_of_length_le (fits limit rfl)

theorem length_cut_le (limit : Option Nat) (entries : Entries String Bool) :
    ∀ most ∈ limit, (cut limit entries).length ≤ most := by
  rintro most ⟨⟩
  rw [cut, List.length_take]
  exact Nat.min_le_left _ _

theorem lookup_of_cut {limit : Option Nat}
    (found : (cut limit entries).lookup key = some decision) :
    entries.lookup key = some decision := by
  cases limit with
  | none => exact found
  | some limit =>
      rw [cut, lookup_take] at found
      split at found
      · exact found
      · cases found

theorem length_touch_of_mem (member : key ∈ Entries.keys entries) :
    (touch key decision entries).length ≤ entries.length := by
  obtain ⟨entry, there, isKey⟩ := List.mem_map.mp member
  rw [touch, List.length_cons]
  refine Nat.lt_of_le_of_ne (List.length_filter_le _ _) fun same => ?_
  have kept := List.length_filter_eq_length_iff.mp same entry there
  rw [isKey] at kept
  simp at kept

end

section

variable {event : Event} {history : List Event} {key other : String}

theorem latestPut?_invalidate (key : String) (answer : Option Bool) (history : List Event) :
    latestPut? key ((.invalidate, answer) :: history) = none :=
  rfl

theorem latestPut?_put_self (decision : Bool) (answer : Option Bool) :
    latestPut? key ((.put key decision, answer) :: history) = some decision := by
  simp [latestPut?, sinceInvalidation, Event.put?]

theorem latestPut?_put_of_ne (different : other ≠ key) (decision : Bool)
    (answer : Option Bool) :
    latestPut? other ((.put key decision, answer) :: history) = latestPut? other history := by
  simp [latestPut?, sinceInvalidation, Event.put?, Ne.symm different]

theorem latestPut?_get (answer : Option Bool) :
    latestPut? other ((.get key, answer) :: history) = latestPut? other history := by
  simp [latestPut?, sinceInvalidation, List.findSome?_cons, Event.put?]

theorem lately_of_used (used : event.used? = some key) :
    ∃ decision, lately (event :: history) = touch key decision (lately history) := by
  obtain ⟨use, answer⟩ := event
  cases use with
  | invalidate => cases used
  | put other decision =>
      cases used
      exact ⟨decision, rfl⟩
  | get other =>
      cases answer with
      | none => cases used
      | some decision =>
          cases used
          exact ⟨decision, rfl⟩

theorem lately_of_unused (unused : event.used? = none) :
    lately (event :: history) = [] ∨ lately (event :: history) = lately history := by
  obtain ⟨use, answer⟩ := event
  cases use with
  | invalidate => exact .inl rfl
  | put other decision => cases unused
  | get other =>
      cases answer with
      | none => exact .inr rfl
      | some decision => cases unused

theorem mem_takeWhile_filter (different : other ≠ key) (names : List String) (name : String) :
    name ∈ (names.filter (· != other)).takeWhile (· != key) ↔
      name ≠ other ∧ name ∈ names.takeWhile (· != key) := by
  induction names with
  | nil => simp
  | cons first names ih =>
      by_cases isOther : first = other
      · subst isOther
        simp only [bne_self_eq_false, Bool.false_eq_true, not_false_eq_true,
          List.filter_cons_of_neg, ih, bne_iff_ne, ne_eq, different, List.takeWhile_cons_of_pos,
          List.mem_cons]
        refine and_congr_right fun apart => ?_
        rw [or_iff_right apart]
      · by_cases isKey : first = key
        · subst isKey
          simp [isOther]
        · simp only [bne_iff_ne, ne_eq, isOther, not_false_eq_true, List.filter_cons_of_pos, isKey,
            List.takeWhile_cons_of_pos, List.mem_cons, ih]
          constructor
          · rintro (rfl | ⟨apart, later⟩)
            · exact ⟨isOther, .inl rfl⟩
            · exact ⟨apart, .inr later⟩
          · rintro ⟨apart, rfl | later⟩
            · exact .inl rfl
            · exact .inr ⟨apart, later⟩

theorem mem_front_iff (held : key ∈ Entries.keys (lately history)) (name : String) :
    name ∈ (Entries.keys (lately history)).takeWhile (· != key) ↔
      name ∈ othersSince key history := by
  rw [othersSince, List.mem_dedup]
  induction history with
  | nil => cases held
  | cons event history ih =>
      cases used : event.used? with
      | none =>
          have kept : lately (event :: history) = [] ∨ lately (event :: history) = lately history :=
            lately_of_unused used
          rcases kept with forgotten | same
          · rw [forgotten] at held
            cases held
          · rw [same] at held ⊢
            rw [ih held]
            simp [used]
      | some other =>
          obtain ⟨decision, touched⟩ : ∃ decision,
              lately (event :: history) = touch other decision (lately history) :=
            lately_of_used used
          rw [touched, keys_touch] at held ⊢
          by_cases isKey : other = key
          · subst isKey
            simp [used]
          · have held := (List.mem_filter.mp ((List.mem_cons.mp held).resolve_left
              (Ne.symm isKey))).1
            have kept : (event.used? != some key) = true := by simpa [used] using isKey
            rw [List.takeWhile_cons_of_pos (by simpa using isKey), List.mem_cons,
              mem_takeWhile_filter isKey, ih held, List.takeWhile_cons, kept, if_pos rfl,
              List.filterMap_cons_some used, List.mem_cons]
            constructor
            · rintro (isOther | ⟨-, later⟩)
              · exact .inl isOther
              · exact .inr later
            · rintro (isOther | later)
              · exact .inl isOther
              · exact Classical.or_iff_not_imp_left.mpr fun apart => ⟨apart, later⟩

theorem length_othersSince (held : key ∈ Entries.keys (lately history)) :
    (othersSince key history).length =
      ((Entries.keys (lately history)).takeWhile (· != key)).length := by
  have nodup := (List.takeWhile_sublist (· != key)).nodup (nodup_keys_lately history)
  refine List.Perm.length_eq ((List.perm_ext_iff_of_nodup (List.nodup_dedup _) nodup).mpr ?_)
  exact fun name => (mem_front_iff held name).symm

end

def Use.asks : Use → Bool
  | .get _ => true
  | _ => false

/-- A cache holds what was put lately, as far as its limit allows, and counts what it is asked. -/
structure Record.Kept (record : Record) (limit : Option Nat) : Prop where
  limit_eq : record.cache.limit = limit
  entries_eq : record.cache.entries.reverse = cut limit (lately record.history)
  latest : ∀ key, (lately record.history).lookup key = latestPut? key record.history
  hits : record.cache.hits = record.history.countP (·.2.isSome)
  asked : record.cache.hits + record.cache.misses = record.history.countP (·.1.asks)

theorem kept_empty (limit : Option Nat) : Record.Kept ⟨empty limit, []⟩ limit where
  limit_eq := rfl
  entries_eq := (cut_nil limit).symm
  latest _ := rfl
  hits := rfl
  asked := rfl

namespace Record.Kept

variable {record : Record} {limit : Option Nat} (kept : record.Kept limit)
include kept

theorem lookup_eq (key : String) :
    record.cache.entries.lookup key = (cut limit (lately record.history)).lookup key := by
  have nodup := nodup_keys_cut limit (nodup_keys_lately record.history)
  rw [← kept.entries_eq] at nodup ⊢
  rw [Entries.keys, List.map_reverse, List.nodup_reverse] at nodup
  exact (lookup_reverse nodup key).symm

theorem miss {key : String} (missing : record.cache.entries.lookup key = none) :
    (record.after (.get key)).Kept limit := by
  have after : record.after (.get key) =
      ⟨{ record.cache with misses := record.cache.misses + 1 },
        (.get key, none) :: record.history⟩ := by
    simp only [Record.after, use, DecisionCache.get, missing]
  have asked := kept.asked
  rw [after]
  refine ⟨kept.limit_eq, kept.entries_eq, fun other => ?_, ?_, ?_⟩
  · exact (kept.latest other).trans (latestPut?_get none).symm
  · simpa using kept.hits
  · rw [List.countP_cons_of_pos rfl]
    simp only
    omega

theorem hit {key : String} {decision : Bool}
    (found : record.cache.entries.lookup key = some decision) :
    (record.after (.get key)).Kept limit := by
  have after : record.after (.get key) =
      ⟨{ record.cache with
          entries := touched record.cache.entries key decision
          hits := record.cache.hits + 1 },
        (.get key, some decision) :: record.history⟩ := by
    simp only [Record.after, use, DecisionCache.get, found]
  have held := found
  rw [kept.lookup_eq] at held
  rw [after]
  refine ⟨kept.limit_eq, ?_, fun other => ?_, ?_, ?_⟩
  · -- the key is moved, so no entry has to leave
    have short : ∀ most ∈ limit,
        (touch key decision (cut limit (lately record.history))).length ≤ most := by
      intro most isLimit
      exact Nat.le_trans (length_touch_of_mem (Entries.mem_keys_of_lookup held))
        (length_cut_le limit _ most isLimit)
    calc (touched record.cache.entries key decision).reverse
        = touch key decision (cut limit (lately record.history)) := by
          rw [reverse_touched, kept.entries_eq]
      _ = cut limit (touch key decision (cut limit (lately record.history))) :=
          (cut_of_short short).symm
      _ = cut limit (touch key decision (lately record.history)) :=
          cut_touch limit (nodup_keys_lately _)
  · rw [latestPut?_get, lately]
    by_cases isKey : other = key
    · rw [isKey, lookup_touch_self, ← kept.latest, lookup_of_cut held]
    · rw [lookup_touch_of_ne isKey, kept.latest]
  · rw [List.countP_cons_of_pos rfl, ← kept.hits]
  · rw [List.countP_cons_of_pos rfl, ← kept.asked]
    exact Nat.add_right_comm _ 1 _

theorem put (key : String) (decision : Bool) : (record.after (.put key decision)).Kept limit := by
  refine ⟨kept.limit_eq, ?_, fun other => ?_, ?_, ?_⟩
  · have almost : ∀ most ∈ record.cache.limit,
        (touched record.cache.entries key decision).length ≤ most + 1 := by
      intro most isLimit
      rw [kept.limit_eq] at isLimit
      rw [← List.length_reverse, reverse_touched, kept.entries_eq]
      exact Nat.le_trans (length_touch_le _ key decision)
        (Nat.succ_le_succ (length_cut_le limit _ most isLimit))
    calc (trimmedTo record.cache.limit (touched record.cache.entries key decision)).reverse
        = cut limit (touch key decision (cut limit (lately record.history))) := by
          rw [reverse_trimmedTo almost, kept.limit_eq, reverse_touched, kept.entries_eq]
      _ = cut limit (touch key decision (lately record.history)) :=
          cut_touch limit (nodup_keys_lately _)
  · show (touch key decision (lately record.history)).lookup other =
      latestPut? other ((.put key decision, none) :: record.history)
    by_cases isKey : other = key
    · rw [isKey, lookup_touch_self, latestPut?_put_self]
    · rw [lookup_touch_of_ne isKey, latestPut?_put_of_ne isKey, kept.latest]
  · exact kept.hits
  · exact kept.asked

theorem invalidate : (record.after .invalidate).Kept limit where
  limit_eq := kept.limit_eq
  entries_eq := (cut_nil limit).symm
  latest key := (latestPut?_invalidate key none _).symm
  hits := kept.hits
  asked := kept.asked

theorem after (use : Use) : (record.after use).Kept limit := by
  cases use with
  | get key =>
      cases found : record.cache.entries.lookup key with
      | none => exact kept.miss found
      | some decision => exact kept.hit found
  | put key decision => exact kept.put key decision
  | invalidate => exact kept.invalidate

theorem foldl (uses : List Use) : (uses.foldl Record.after record).Kept limit := by
  induction uses generalizing record with
  | nil => exact kept
  | cons use uses ih => exact ih (kept.after use)

theorem get_eq (key : String) :
    (record.cache.get key).1 =
      if ∀ most ∈ limit, (othersSince key record.history).length < most then
        latestPut? key record.history
      else none := by
  rw [get_fst, kept.lookup_eq, ← kept.latest]
  cases limit with
  | none => simp [cut]
  | some limit =>
      simp only [Option.mem_some_iff, forall_eq']
      rw [cut, lookup_take]
      cases found : (lately record.history).lookup key with
      | none => simp
      | some decision => rw [length_othersSince (Entries.mem_keys_of_lookup found)]

theorem size_le : ∀ most ∈ limit, record.cache.size ≤ most := by
  intro most isLimit
  rw [size, ← List.length_reverse, kept.entries_eq]
  exact length_cut_le limit _ most isLimit

end Record.Kept

theorem history_foldl (record : Record) (uses : List Use) :
    (uses.foldl Record.after record).history.map (·.1) =
      uses.reverse ++ record.history.map (·.1) := by
  induction uses generalizing record with
  | nil => rfl
  | cons use uses ih =>
      rw [List.foldl_cons, ih, List.reverse_cons, List.append_assoc]
      rfl

theorem kept_run (limit : Option Nat) (uses : List Use) :
    ((empty limit).run uses).Kept limit :=
  (kept_empty limit).foldl uses

theorem exists_limit {most? : Option Int} {cache : DecisionCache}
    (made : ofLimit? most? = some cache) :
    ∃ limit : Option Nat, cache = empty limit ∧ most? = limit.map Int.ofNat := by
  cases most? with
  | none =>
      cases made
      exact ⟨none, rfl, rfl⟩
  | some most =>
      simp only [ofLimit?, Option.ite_none_left_eq_some, Option.some.injEq] at made
      obtain ⟨positive, rfl⟩ := made
      refine ⟨some most.toNat, rfl, congrArg some ?_⟩
      exact (Int.toNat_of_nonneg (by omega)).symm

/-- However a new cache is used: the next request for a key is answered with the decision that
was put last under it since the cache was invalidated, if fewer other keys were used since the
last use of the key than the cache has room for. All other requests have no answer. There are
never more entries than that. All requests are counted, and those with an answer are hits. -/
theorem recalls_iff_recent {most? : Option Int} {cache : DecisionCache}
    (made : ofLimit? most? = some cache) (uses : List Use) :
    (cache.run uses).history.map (·.1) = uses.reverse ∧
    (∀ key, ((cache.run uses).cache.get key).1 =
      if ∀ most ∈ most?, ((othersSince key (cache.run uses).history).length : Int) < most then
        latestPut? key (cache.run uses).history
      else none) ∧
    (∀ most ∈ most?, ((cache.run uses).cache.size : Int) ≤ most) ∧
    (cache.run uses).cache.hits + (cache.run uses).cache.misses = uses.countP Use.asks ∧
    (cache.run uses).cache.hits = (cache.run uses).history.countP (·.2.isSome) := by
  obtain ⟨limit, rfl, rfl⟩ := exists_limit made
  have kept := kept_run limit uses
  have told := history_foldl ⟨empty limit, []⟩ uses
  rw [List.map_nil, List.append_nil] at told
  have asked : ((empty limit).run uses).history.countP (·.1.asks) = uses.countP Use.asks := by
    rw [← List.countP_reverse (l := uses), ← told, List.countP_map]
    rfl
  refine ⟨told, fun key => (kept.get_eq key).trans ?_, ?_, kept.asked.trans asked, kept.hits⟩
  · cases limit <;> simp
  · cases limit with
    | none => exact nofun
    | some limit => simpa using kept.size_le limit rfl

namespace Sample

def uses : List Use :=
  [.put "alice" true, .put "bob" false, .get "bob", .get "alice", .put "bob" false, .get "carol",
    .put "carol" true]

end Sample

/-- Of three decisions two are kept, and a refusal is a decision as well. -/
theorem recalls_iff_recent_pair :
    ofLimit? (some 2) = some (empty (some 2)) ∧
      (((empty (some 2)).run Sample.uses).cache.get "alice").1 = none ∧
      (((empty (some 2)).run Sample.uses).cache.get "bob").1 = some false ∧
      ((empty (some 2)).run Sample.uses).cache.hits = 2 := by
  obtain ⟨-, answers, -, -, hits⟩ := @recalls_iff_recent (some 2) _ rfl Sample.uses
  refine ⟨rfl, (answers "alice").trans ?_, (answers "bob").trans ?_, hits.trans ?_⟩
  · exact if_neg (by decide)
  · exact (if_pos (by decide)).trans (by decide)
  · decide

end AccessControl.DecisionCache
