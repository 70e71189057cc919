import Mathlib.Data.List.Nodup
import ModuleRuntime.Log.Config

/-!
# Thresholds of targets

The keys that cover a target are all starts of it, so of two that are equally long neither is longer
in octets, and they are one key. One longest key is left, whichever order the entries are taken in:
the level under it decides, and where no key covers the target, the default does.
-/

set_option autoImplicit false

namespace ModuleRuntime.Log.Config

variable {key key' target : String}

/-! ## Keys that cover a target -/

/-- A key is a target, or a start of it before a dot. -/
def Covers (key target : String) : Prop :=
  target = key ∨ ∃ rest, target = key ++ "." ++ rest

/-- The test of a key is whether it covers the target. -/
theorem covers_iff : covers key target = true ↔ Covers key target := by
  unfold covers Covers
  rw [Bool.or_eq_true, beq_iff_eq, List.isPrefixOf_iff_prefix]
  refine or_congr eq_comm ⟨?_, ?_⟩
  · rintro ⟨rest, hrest⟩
    refine ⟨String.ofList rest, String.toList_inj.mp ?_⟩
    simpa using hrest.symm
  · rintro ⟨rest, rfl⟩
    exact ⟨rest.toList, by simp⟩

namespace Covers

/-- A key that covers a target is a start of it. -/
theorem isPrefix (h : Covers key target) : key.toList <+: target.toList := by
  rcases h with rfl | ⟨rest, rfl⟩
  · exact List.prefix_rfl
  · exact ⟨'.' :: rest.toList, by simp⟩

/-- Of two keys that cover a target, the one that is not longer is a start of the other. -/
theorem isPrefix_of_length_le (h : Covers key target) (h' : Covers key' target)
    (hlength : key.length ≤ key'.length) : key.toList <+: key'.toList :=
  List.prefix_of_prefix_length_le h.isPrefix h'.isPrefix (by simpa only [String.length_toList])

/-- Two keys of one length that cover a target are the same. -/
theorem eq_of_length (h : Covers key target) (h' : Covers key' target)
    (hlength : key.length = key'.length) : key = key' :=
  have hshorter := h.isPrefix_of_length_le h' (Nat.le_of_eq hlength)
  String.toList_inj.mp (hshorter.eq_of_length (by simpa only [String.length_toList]))

/-- A key that has no more characters than another one has no more octets. -/
theorem utf8ByteSize_le (h : Covers key target) (h' : Covers key' target)
    (hlength : key.length ≤ key'.length) : key.utf8ByteSize ≤ key'.utf8ByteSize := by
  obtain ⟨rest, hrest⟩ := h.isPrefix_of_length_le h' hlength
  have hkey' : key' = key ++ String.ofList rest := String.toList_inj.mp (by simpa using hrest.symm)
  rw [hkey', String.utf8ByteSize_append]
  exact Nat.le_add_right _ _

end Covers

/-! ## The longest key -/

/-- What is found in entries for a target: nothing if no key covers it, and else an entry with a
key that covers it and is as long as any other such key. -/
inductive IsLongest (target : String) (entries : List (String × String)) :
    Option (String × String) → Prop where
  | uncovered (hnone : ∀ e ∈ entries, ¬Covers e.1 target) : IsLongest target entries none
  | longest {entry : String × String} (hmem : entry ∈ entries) (hcovers : Covers entry.1 target)
    (hlongest : ∀ e ∈ entries, Covers e.1 target → e.1.length ≤ entry.1.length) :
    IsLongest target entries (some entry)

namespace IsLongest

variable {entries seen : List (String × String)} {best best' : Option (String × String)}

/-- The order of the entries has no part in what is found. -/
theorem of_mem_iff (h : IsLongest target seen best) (hmem : ∀ e, e ∈ seen ↔ e ∈ entries) :
    IsLongest target entries best := by
  cases h with
  | uncovered hnone => exact .uncovered fun e he => hnone e ((hmem e).mpr he)
  | longest hentry hcovers hlongest =>
    exact .longest ((hmem _).mp hentry) hcovers fun e he => hlongest e ((hmem e).mpr he)

/-- An entry is found if its key covers the target and is longer than what was found before. -/
theorem replace {entry : String × String} (h : IsLongest target seen best)
    (hcovers : Covers entry.1 target) (hlonger : ∀ b ∈ best, b.1.length < entry.1.length) :
    IsLongest target (entry :: seen) (some entry) := by
  refine .longest List.mem_cons_self hcovers fun e he hother => ?_
  rcases List.mem_cons.mp he with rfl | he
  · exact Nat.le_refl _
  · cases h with
    | uncovered hnone => exact absurd hother (hnone e he)
    | longest _ _ hlongest =>
      exact Nat.le_of_lt (Nat.lt_of_le_of_lt (hlongest e he hother) (hlonger _ rfl))

/-- What was found before stays if an entry's key does not cover the target or is not longer. -/
theorem keep {entry : String × String} (h : IsLongest target seen best)
    (hentry : Covers entry.1 target → ∃ b ∈ best, entry.1.length ≤ b.1.length) :
    IsLongest target (entry :: seen) best := by
  cases h with
  | uncovered hnone =>
    refine .uncovered (List.forall_mem_cons.mpr ⟨fun hcovers => ?_, hnone⟩)
    obtain ⟨_, hb, -⟩ := hentry hcovers
    cases hb
  | longest hmem hcovers hlongest =>
    refine .longest (List.mem_cons_of_mem entry hmem) hcovers
      (List.forall_mem_cons.mpr ⟨fun hother => ?_, hlongest⟩)
    obtain ⟨_, hb, hlength⟩ := hentry hother
    rwa [Option.some.inj hb]

/-- The search keeps the longest key of what it has seen. -/
theorem append (h : IsLongest target seen best) (rest : List (String × String)) :
    IsLongest target (rest.reverse ++ seen) (longestFrom target best rest) := by
  induction rest generalizing seen best with
  | nil => exact h
  | cons entry rest ih =>
    -- What is searched next has been seen before the rest.
    rw [List.reverse_cons, List.append_assoc, List.singleton_append]
    refine ih ?_
    cases best with
    | none =>
      rw [Bool.and_true]
      split
      · next hcovers => exact h.replace (covers_iff.mp hcovers) (by simp)
      · next hcovers => exact h.keep fun hentry => absurd (covers_iff.mpr hentry) hcovers
    | some b =>
      have htaken : (covers entry.1 target && decide (b.1.length < entry.1.length)) = true ↔
          Covers entry.1 target ∧ b.1.length < entry.1.length := by
        rw [Bool.and_eq_true, covers_iff, decide_eq_true_iff]
      by_cases hentry : Covers entry.1 target ∧ b.1.length < entry.1.length
      · rw [if_pos (htaken.mpr hentry)]
        exact h.replace hentry.1 (by simpa using hentry.2)
      · rw [if_neg (htaken.not.mpr hentry)]
        exact h.keep fun hcovers => ⟨b, rfl, Nat.not_lt.mp fun hlonger => hentry ⟨hcovers, hlonger⟩⟩

/-- Where keys stand once, there is only one entry to be found. -/
theorem unique (hnodup : (entries.map Prod.fst).Nodup) (h : IsLongest target entries best)
    (h' : IsLongest target entries best') : best = best' := by
  cases h with
  | uncovered hnone =>
    cases h' with
    | uncovered _ => rfl
    | longest hmem hcovers _ => exact absurd hcovers (hnone _ hmem)
  | longest hmem hcovers hlongest =>
    cases h' with
    | uncovered hnone => exact absurd hcovers (hnone _ hmem)
    | longest hmem' hcovers' hlongest' =>
      -- Neither key is longer than the other, so they are one, and it stands once.
      have hkey := hcovers.eq_of_length hcovers'
        (Nat.le_antisymm (hlongest' _ hmem hcovers) (hlongest _ hmem' hcovers'))
      exact congrArg Option.some (List.inj_on_of_nodup_map hnodup hmem hmem' hkey)

end IsLongest

/-- The longest entry that is found is the longest that covers the target. -/
theorem isLongest_longestFrom (target : String) (entries : List (String × String)) :
    IsLongest target entries (longestFrom target none entries) :=
  have hnothing : IsLongest target [] none := .uncovered fun _ he => absurd he List.not_mem_nil
  (hnothing.append entries).of_mem_iff (by simp)

/-! ## Thresholds -/

/-- The threshold that a configuration gives to a target: that of the level under the longest key
that covers the target, by characters and by octets, or that of the default. -/
inductive Grants (c : Config) (target : String) : Threshold → Prop where
  | level {key level : String} (hfind : c.targetLevels.find? key = some level)
    (hcovers : Covers key target)
    (hlongest : ∀ other ∈ c.targetLevels.keys, Covers other target →
      other.length ≤ key.length ∧ other.utf8ByteSize ≤ key.utf8ByteSize) :
    Grants c target (.ofName level)
  | default (hnone : ∀ key ∈ c.targetLevels.keys, ¬Covers key target) :
    Grants c target (.ofName c.defaultLevel)

variable {c : Config} {entries : List (String × String)} {threshold : Threshold}

/-- An entry of a configuration that is longest for a target grants the threshold of its level. -/
theorem IsLongest.grants {found : Option (String × String)}
    (h : IsLongest target c.targetLevels.entries found) :
    c.Grants target (.ofName ((found.map Prod.snd).getD c.defaultLevel)) := by
  have hkey {key : String} (hmem : key ∈ c.targetLevels.keys) :
      ∃ e ∈ c.targetLevels.entries, e.1 = key := List.mem_map.mp hmem
  cases h with
  | uncovered hnone =>
    refine .default fun key hmem => ?_
    obtain ⟨e, he, rfl⟩ := hkey hmem
    exact hnone e he
  | @longest entry hmem hcovers hlongest =>
    have hfind : c.targetLevels.find? entry.1 = some entry.2 :=
      (Dictionary.mem_entries_iff _ _ _).mp hmem
    refine .level hfind hcovers fun other hother hcovers' => ?_
    obtain ⟨e, he, rfl⟩ := hkey hother
    have hlength := hlongest e he hcovers'
    exact ⟨hlength, hcovers'.utf8ByteSize_le hcovers hlength⟩

/-- What a configuration grants comes from an entry that is longest for the target. -/
theorem Grants.exists_isLongest (h : c.Grants target threshold) :
    ∃ found, IsLongest target c.targetLevels.entries found ∧
      threshold = .ofName ((found.map Prod.snd).getD c.defaultLevel) := by
  cases h with
  | default hnone =>
    exact ⟨none, .uncovered fun e he => hnone e.1 (List.mem_map_of_mem he), rfl⟩
  | @level key level hfind hcovers hlongest =>
    have hmem : (key, level) ∈ c.targetLevels.entries :=
      (Dictionary.mem_entries_iff _ _ _).mpr hfind
    refine ⟨some (key, level), .longest hmem hcovers fun e he hcovers' => ?_, rfl⟩
    exact (hlongest e.1 (List.mem_map_of_mem he) hcovers').1

/-- In whatever order the entries are taken, what they give to a target is what the configuration
grants to it, and nothing else is. -/
theorem ofName_levelName_eq_iff (horder : entries.Perm c.targetLevels.entries) :
    .ofName (levelName entries c.defaultLevel target) = threshold ↔
      c.Grants target threshold := by
  have hfound : IsLongest target c.targetLevels.entries (longestFrom target none entries) :=
    (isLongest_longestFrom target entries).of_mem_iff fun e => horder.mem_iff
  constructor
  · rintro rfl
    exact hfound.grants
  · intro hgrants
    obtain ⟨found, hlongest, rfl⟩ := hgrants.exists_isLongest
    rw [levelName, hfound.unique c.targetLevels.nodup_keys hlongest]

/-- The threshold of a target is the one that the longest key covering it or else the default
grants, and any order of the entries gives the same. -/
theorem threshold_eq_iff (c : Config) (target : String) (t : Threshold) :
    (c.threshold target = t ↔ c.Grants target t) ∧
      ∀ entries : List (String × String), entries.Perm c.targetLevels.entries →
        .ofName (levelName entries c.defaultLevel target) = c.threshold target :=
  ⟨ofName_levelName_eq_iff (.refl _), fun _ horder =>
    (ofName_levelName_eq_iff horder).mpr ((ofName_levelName_eq_iff (.refl _)).mp rfl)⟩

/-- A configuration in which the empty key covers `"..x"`, and so does a key that is a dot. -/
def layered : Config :=
  ⟨"warn", .ofList [("", "off"), (".", "verbose"), ("x", "error")], true, false⟩

/-- The dot covers more of the target than the empty key does, in whatever order they are listed. -/
theorem threshold_layered :
    [("x", "error"), (".", "verbose"), ("", "off")].Perm layered.targetLevels.entries ∧
      layered.Grants "..x" (.upTo .trace) ∧
      .ofName (levelName [("x", "error"), (".", "verbose"), ("", "off")] "warn" "..x") =
        Threshold.upTo .trace := by
  have horder : [("x", "error"), (".", "verbose"), ("", "off")].Perm
    layered.targetLevels.entries := by decide
  have hthreshold : layered.threshold "..x" = .upTo .trace := by decide
  obtain ⟨hgrants, hany⟩ := threshold_eq_iff layered "..x" (.upTo .trace)
  exact ⟨horder, hgrants.mp hthreshold, (hany _ horder).trans hthreshold⟩

end ModuleRuntime.Log.Config
