import Mathlib.Data.List.Induction
import Mathlib.Data.List.NodupEquivFin
import PermissionNames.Proofs.Transform

/-! Collisions of finished names: each shared token is reported once, in the order of first occurrence, with all slots that carry it. -/

namespace PermissionNames

section Order

variable {names : List String} {first second : String}

/-- Names that are kept come in the same order among the kept names as among all. -/
theorem idxOf_lt_of_filter {keep : String → Bool} (keepsFirst : keep first = true)
    (keepsSecond : keep second = true)
    (before : (names.filter keep).idxOf first < (names.filter keep).idxOf second) :
    names.idxOf first < names.idxOf second := by
  -- A name that is left out is neither of the two, so both move back by one place.
  induction names with
  | nil => simp at before
  | cons name later ih =>
    by_cases isFirst : name = first
    · subst isFirst
      by_cases isSecond : name = second
      · simp [isSecond] at before
      · simp [isSecond]
    · by_cases isSecond : name = second
      · subst isSecond
        simp [keepsSecond] at before
      · have shorter : (later.filter keep).idxOf first < (later.filter keep).idxOf second := by
          by_cases kept : keep name = true
          · simpa [kept, List.idxOf_cons, isFirst, isSecond] using before
          · simpa [kept] using before
        simpa [List.idxOf_cons, isFirst, isSecond] using ih shorter

/-- Distinct names are listed in the order in which they first occur. -/
theorem pairwise_eraseDups (names : List String) :
    names.eraseDups.Pairwise fun first second => names.idxOf first < names.idxOf second := by
  -- Behind the first name stand the distinct ones of the rest without it, a shorter list.
  induction count : names.length using Nat.strong_induction_on generalizing names with
  | _ count ih =>
    cases names with
    | nil => simp
    | cons name later =>
      subst count
      rw [List.eraseDups_cons, List.pairwise_cons]
      constructor
      · intro other member
        have apart : other ≠ name := by
          have kept := (List.mem_filter.mp (List.mem_eraseDups.mp member)).2
          simpa using kept
        simp [apart.symm]
      · have shorter : (later.filter (!· == name)).length < (name :: later).length :=
          Nat.lt_succ_of_le (List.length_filter_le _ _)
        refine (ih _ shorter _ rfl).imp_of_mem ?_
        intro first second inFirst inSecond before
        -- Neither of the two is the first name, so the order of the rest decides.
        have keepsFirst := (List.mem_filter.mp (List.mem_eraseDups.mp inFirst)).2
        have keepsSecond := (List.mem_filter.mp (List.mem_eraseDups.mp inSecond)).2
        have firstApart : name ≠ first := by
          rintro rfl
          simp at keepsFirst
        have secondApart : name ≠ second := by
          rintro rfl
          simp at keepsSecond
        have inRest := idxOf_lt_of_filter keepsFirst keepsSecond before
        simpa [List.idxOf_cons, firstApart, secondApart] using inRest

/-- Distinct names are listed once. -/
theorem nodup_eraseDups (names : List String) : names.eraseDups.Nodup := by
  -- No name comes before itself.
  refine (pairwise_eraseDups names).imp ?_
  intro first second before same
  rw [same] at before
  exact Nat.lt_irrefl _ before

end Order

section Counting

variable {known : List String} {name : String}

/-- Counting one more occurrence raises the count of a name that is known, and enters one that is new. -/
theorem Tally.add_map (distinct : known.Nodup) (count : String → Nat)
    (fresh : name ∉ known → count name = 0) :
    Tally.add name (known.map fun other => (other, count other)) =
      (if name ∈ known then known else known ++ [name]).map fun other =>
        (other, if other = name then count other + 1 else count other) := by
  -- The entries up to that of the name stay as they are, and so do those behind it.
  induction known with
  | nil => simp [Tally.add, fresh]
  | cons first later ih =>
    obtain ⟨notLater, distinctLater⟩ := List.nodup_cons.mp distinct
    rw [List.map_cons, Tally.add]
    by_cases same : first = name
    · subst same
      have others : ∀ other ∈ later, other ≠ first := by
        rintro other member rfl
        exact notLater member
      simp +contextual [others]
    · have behind := ih distinctLater fun absent => fresh (by simp [absent, Ne.symm same])
      rw [if_neg same, behind]
      by_cases member : name ∈ later
      · simp [member, same]
      · simp [member, same, Ne.symm same]

/-- After the pass every name has one entry, with the number of its occurrences and in the order of the first ones. -/
theorem Tally.ofNames_eq (names : List String) :
    Tally.ofNames names = names.eraseDups.map fun name => (name, names.count name) := by
  -- One step of the pass counts the last name on top of all names before it.
  induction names using List.reverseRecOn with
  | nil => rfl
  | append_singleton earlier name ih =>
    have step : Tally.ofNames (earlier ++ [name]) = Tally.add name (Tally.ofNames earlier) := by
      rw [Tally.ofNames, List.foldl_append]
      rfl
    have fresh : name ∉ earlier.eraseDups → earlier.count name = 0 := by
      intro absent
      rw [List.mem_eraseDups] at absent
      exact List.count_eq_zero.mpr absent
    have entered : (if name ∈ earlier.eraseDups then earlier.eraseDups
        else earlier.eraseDups ++ [name]) = (earlier ++ [name]).eraseDups := by
      rw [List.eraseDups_append]
      by_cases known : name ∈ earlier
      · simp [known, List.removeAll]
      · simp [known, List.removeAll, List.eraseDups_cons]
    have counted : ∀ other, (if other = name then earlier.count other + 1 else earlier.count other) =
        (earlier ++ [name]).count other := by
      intro other
      by_cases same : other = name
      · simp [same]
      · simp [same, List.count_append, Ne.symm same]
    rw [step, ih, Tally.add_map (nodup_eraseDups earlier) _ fresh, entered]
    simp only [counted]

end Counting

/-- An element that is kept stands behind as many kept elements as are kept before it. -/
theorem getElem?_filter_countP {α : Type} {keep : α → Bool} {elements : List α} {position : Nat}
    {element : α} (placed : elements[position]? = some element) (kept : keep element = true) :
    (elements.filter keep)[(elements.take position).countP keep]? = some element := by
  -- Each element in front is either kept and counted, or neither.
  induction elements generalizing position with
  | nil => simp at placed
  | cons head later ih =>
    cases position with
    | zero =>
      obtain rfl : head = element := by simpa using placed
      simp [kept]
    | succ position =>
      have behind := ih (by simpa using placed)
      by_cases counted : keep head = true
      · simpa [counted] using behind
      · simpa [counted] using behind

/-- Whether a collision lists the slot at a position: the slot carries the token, and its identity stands behind those of the earlier slots that carry it. -/
def Collision.Lists (collision : Collision) (slots : List Slot) (position : Nat) : Prop :=
  ∃ slot, slots[position]? = some slot ∧ slot.canonicalName = collision.token ∧
    collision.identities[(slots.take position).countP (·.canonicalName == collision.token)]? =
      some slot.identity

namespace Container

variable {container finished : Container} {used name : String}

/-- The names of all slots, in slot order. -/
def tokens (container : Container) : List String :=
  container.slots.map (·.canonicalName)

/-- The collision for a token. -/
def collisionAt (container : Container) (token : String) : Collision where
  container := container.qualifiedName
  token := token
  identities := (container.slotsNamed token).map (·.identity)

/-- The names that two or more slots carry, in the order in which they first occur. -/
def sharedTokens (container : Container) : List String :=
  container.tokens.eraseDups.filter fun token => 2 ≤ container.tokens.count token

/-- Where names are obfuscated, each shared name is reported. -/
theorem collisions_eq (asked : container.effectiveFlags.obfuscate = true) :
    container.collisions = container.sharedTokens.map container.collisionAt := by
  -- The entries of the pass that are kept are those of the shared names.
  rw [collisions, if_pos asked, ← tokens]
  simp only [Tally.ofNames_eq, List.filter_map, List.map_map]
  rfl

/-- A name is shared exactly if it occurs at least twice. -/
theorem mem_sharedTokens : name ∈ container.sharedTokens ↔ 2 ≤ container.tokens.count name := by
  -- A name that occurs twice occurs.
  rw [sharedTokens, List.mem_filter, List.mem_eraseDups, decide_eq_true_iff]
  constructor
  · exact fun shared => shared.2
  · intro often
    exact ⟨List.count_pos_iff.mp (by omega), often⟩

/-- Shared names come in the order in which they first occur. -/
theorem pairwise_sharedTokens (container : Container) :
    container.sharedTokens.Pairwise fun first second =>
      container.tokens.idxOf first < container.tokens.idxOf second :=
  (pairwise_eraseDups container.tokens).filter _

/-- A collision lists exactly the slots that carry its token. -/
theorem lists_collisionAt_iff {position : Nat} {token : String} :
    (container.collisionAt token).Lists container.slots position ↔
      container.tokens[position]? = some token := by
  constructor
  · rintro ⟨slot, placed, carries, -⟩
    rw [tokens, List.getElem?_map, placed, Option.map_some, carries]
    rfl
  · intro carried
    rw [tokens, List.getElem?_map, Option.map_eq_some_iff] at carried
    obtain ⟨slot, placed, carries⟩ := carried
    -- The identities are those of the slots that are kept, so the place is found by counting.
    let keep := fun slot : Slot => slot.canonicalName == token
    have kept : keep slot = true := by simpa [keep] using carries
    have located := getElem?_filter_countP placed kept
    refine ⟨slot, placed, carries, ?_⟩
    show ((container.slots.filter keep).map (·.identity))[_]? = _
    rw [List.getElem?_map]
    exact congrArg (Option.map (·.identity)) located

/-- A token at two positions is shared. -/
theorem mem_sharedTokens_of_positions {first second : Nat} (apart : first ≠ second)
    (atFirst : container.tokens[first]? = some name)
    (atSecond : container.tokens[second]? = some name) : name ∈ container.sharedTokens := by
  obtain ⟨firstBelow, firstIs⟩ := List.getElem?_eq_some_iff.mp atFirst
  obtain ⟨secondBelow, secondIs⟩ := List.getElem?_eq_some_iff.mp atSecond
  rw [mem_sharedTokens, ← List.duplicate_iff_two_le_count,
    List.duplicate_iff_exists_distinct_get]
  -- The two positions are named in their order.
  rcases Nat.lt_or_gt_of_ne apart with before | before
  · exact ⟨⟨first, firstBelow⟩, ⟨second, secondBelow⟩, before, firstIs.symm, secondIs.symm⟩
  · exact ⟨⟨second, secondBelow⟩, ⟨first, firstBelow⟩, before, secondIs.symm, firstIs.symm⟩

/-- The token at the position of a slot is its name. -/
theorem getElem?_tokens {position : Nat} {slot : Slot}
    (placed : container.slots[position]? = some slot) :
    container.tokens[position]? = some slot.canonicalName := by
  rw [tokens, List.getElem?_map, placed, Option.map_some]

section Positions

variable {first second : Nat} {slot neighbour : Slot}

/-- Two positions have the same token exactly if one collision lists both of them. -/
theorem tokens_eq_iff (apart : first ≠ second) (placed : container.slots[first]? = some slot)
    (alsoPlaced : container.slots[second]? = some neighbour) :
    slot.canonicalName = neighbour.canonicalName ↔
      ∃ token ∈ container.sharedTokens,
        (container.collisionAt token).Lists container.slots first ∧
        (container.collisionAt token).Lists container.slots second := by
  -- One token at two positions is shared, and its collision lists exactly its positions.
  have atFirst := getElem?_tokens placed
  have atSecond := getElem?_tokens alsoPlaced
  simp only [lists_collisionAt_iff]
  constructor
  · intro same
    rw [← same] at atSecond
    exact ⟨_, mem_sharedTokens_of_positions apart atFirst atSecond, atFirst, atSecond⟩
  · rintro ⟨token, -, firstIs, secondIs⟩
    rw [atFirst] at firstIs
    rw [atSecond] at secondIs
    exact Option.some.inj (firstIs.trans secondIs.symm)

/-- Where identities are distinct, an identity stands in a collision exactly if its slot carries the token. -/
theorem mem_identities_iff (distinct : (container.slots.map (·.identity)).Nodup)
    (member : slot ∈ container.slots) (token : String) :
    slot.identity ∈ (container.collisionAt token).identities ↔ slot.canonicalName = token := by
  -- Distinct identities tell the slot among those that carry the token.
  simp only [collisionAt, slotsNamed, List.mem_map, List.mem_filter, beq_iff_eq]
  constructor
  · rintro ⟨other, ⟨listed, carries⟩, same⟩
    rw [← List.inj_on_of_nodup_map distinct listed member same]
    exact carries
  · intro carries
    exact ⟨slot, ⟨member, carries⟩, rfl⟩

/-- Where identities are distinct, two slots have the same token exactly if both identities stand in one collision. -/
theorem tokens_eq_iff_identities (distinct : (container.slots.map (·.identity)).Nodup)
    (apart : first ≠ second) (placed : container.slots[first]? = some slot)
    (alsoPlaced : container.slots[second]? = some neighbour) :
    slot.canonicalName = neighbour.canonicalName ↔
      ∃ token ∈ container.sharedTokens,
        slot.identity ∈ (container.collisionAt token).identities ∧
        neighbour.identity ∈ (container.collisionAt token).identities := by
  -- The identities in a collision are those of the slots that carry its token.
  simp only [mem_identities_iff distinct (List.mem_of_getElem? placed),
    mem_identities_iff distinct (List.mem_of_getElem? alsoPlaced)]
  constructor
  · intro same
    have atFirst := getElem?_tokens placed
    rw [same] at atFirst
    exact ⟨_, mem_sharedTokens_of_positions apart atFirst (getElem?_tokens alsoPlaced), same, rfl⟩
  · rintro ⟨token, -, carries, alsoCarries⟩
    exact carries.trans alsoCarries.symm

end Positions

end Container

/-- Where names are obfuscated, the collisions of a transformed container are one for each token that several slots carry.
They are in the order of first occurrence, each with all of these slots, and two slots have the same token exactly if one collision lists both.
Where names are not obfuscated there are none. -/
theorem collisions_of_transform {container finished : Container} {used : String}
    (done : container.transform used = .ok finished) :
    (container.effectiveFlags.obfuscate = false → finished.collisions = []) ∧
    (container.effectiveFlags.obfuscate = true →
      (finished.collisions.map (·.token)).Nodup ∧
      (∀ token, token ∈ finished.collisions.map (·.token) ↔ 2 ≤ finished.tokens.count token) ∧
      finished.collisions.Pairwise (fun first second =>
        finished.tokens.idxOf first.token < finished.tokens.idxOf second.token) ∧
      (∀ collision ∈ finished.collisions, collision.container = container.qualifiedName ∧
        collision.identities =
          (finished.slots.filter (·.canonicalName == collision.token)).map (·.identity)) ∧
      ∀ (first second : Nat) (slot neighbour : Slot), first ≠ second →
        finished.slots[first]? = some slot → finished.slots[second]? = some neighbour →
        (slot.canonicalName = neighbour.canonicalName ↔ ∃ collision ∈ finished.collisions,
          collision.Lists finished.slots first ∧ collision.Lists finished.slots second) ∧
        ((finished.slots.map (·.identity)).Nodup →
          (slot.canonicalName = neighbour.canonicalName ↔ ∃ collision ∈ finished.collisions,
            slot.identity ∈ collision.identities ∧ neighbour.identity ∈ collision.identities))) := by
  have frame := Container.eq_of_transform done
  -- Neither the kind nor the flags are touched, so the same options apply to the result.
  have sameFlags : finished.effectiveFlags = container.effectiveFlags := by
    rw [frame]
    rfl
  have sameName : finished.qualifiedName = container.qualifiedName := by
    rw [frame]
    rfl
  constructor
  · intro notAsked
    rw [Container.collisions, sameFlags, notAsked]
    rfl
  · intro asked
    -- The collisions are the shared tokens in their order, each with its slots.
    have reported := Container.collisions_eq (sameFlags ▸ asked)
    have named : finished.collisions.map (·.token) = finished.sharedTokens := by
      rw [reported, List.map_map]
      exact List.map_id _
    have ordered := finished.pairwise_sharedTokens
    refine ⟨?_, ?_, ?_, ?_, ?_⟩
    · rw [named]
      exact (nodup_eraseDups finished.tokens).filter _
    · intro token
      rw [named, Container.mem_sharedTokens]
    · rw [reported, List.pairwise_map]
      exact ordered
    · intro collision member
      rw [reported, List.mem_map] at member
      obtain ⟨token, -, rfl⟩ := member
      exact ⟨sameName, rfl⟩
    · intro first second slot neighbour apart placed alsoPlaced
      simp only [reported, List.mem_map, exists_exists_and_eq_and]
      exact ⟨Container.tokens_eq_iff apart placed alsoPlaced,
        fun distinct => Container.tokens_eq_iff_identities distinct apart placed alsoPlaced⟩

/-- Two declarations of one slot around another one, in a store with obfuscated names in capitals. -/
theorem collisions_of_transform_declaredTwice :
    let read : Slot := ⟨"Read", .publicAccess, false, [], "read", false, by decide⟩
    let write : Slot := ⟨"Write", .publicAccess, true, [], "write", false, by decide⟩
    let api : Container :=
      { name := "Api", namespacePath := "app", slots := [read, write, read],
        flags := { obfuscate := true, upperCase := true } }
    ∃ finished, api.transform "sha256" = .ok finished ∧
      ∃ collision ∈ finished.collisions, collision.container = "app.Api" ∧
        collision.Lists finished.slots 0 ∧ collision.Lists finished.slots 2 := by
  intro read write api
  have found : Algorithm.lookUp "sha256" = .ok .sha256 := Algorithm.lookUp_name .sha256
  have done : api.transform "sha256" = .ok (api.finish .sha256) :=
    Container.transform_eq fun _ => found
  obtain ⟨-, reported⟩ := collisions_of_transform done
  obtain ⟨-, -, -, described, listed⟩ := reported rfl
  -- Both declarations start with the same name, so they end with the same token.
  have same := (listed 0 2 (read.finish api.flags .sha256) (read.finish api.flags .sha256)
    (by decide) rfl rfl).1.mp rfl
  obtain ⟨collision, member, first, second⟩ := same
  exact ⟨_, done, collision, member, (described collision member).1, first, second⟩

/-- Of two shared tokens the one that occurs first is reported first, and a single one is not reported. -/
example :
    let slot (identity token : String) (named : identity ≠ "") : Slot :=
      ⟨identity, .publicAccess, false, [], token, true, named⟩
    let api : Container :=
      { name := "Api", namespacePath := "",
        slots := [slot "A" "t" (by decide), slot "B" "s" (by decide), slot "C" "u" (by decide),
          slot "D" "s" (by decide), slot "A" "t" (by decide)],
        flags := { obfuscate := true } }
    api.collisions = [⟨"Api", "t", ["A", "A"]⟩, ⟨"Api", "s", ["B", "D"]⟩] := by
  decide

end PermissionNames
