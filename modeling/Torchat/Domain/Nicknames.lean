import Torchat.Domain.Vocabulary

namespace Torchat

variable {text : String}

theorem trim_eq_self_iff :
    trim text = text ↔
      text.toList.dropWhile isWhiteSpace = text.toList ∧
        text.toList.rdropWhile isWhiteSpace = text.toList := by
  rw [← String.toList_inj, trim_toList]
  constructor
  · intro same
    have front : text.toList.dropWhile isWhiteSpace = text.toList := by
      refine (List.dropWhile_suffix isWhiteSpace).eq_of_length_le ?_
      have shorter := (List.rdropWhile_prefix isWhiteSpace
        (text.toList.dropWhile isWhiteSpace)).length_le
      rwa [same] at shorter
    rw [front] at same
    exact ⟨front, same⟩
  · rintro ⟨front, back⟩
    rw [front, back]

/-- No character is white space, as in URL-safe base64. -/
def Unspaced (text : String) : Prop :=
  ∀ character ∈ text.toList, isWhiteSpace character = false

theorem unspaced_iff_all :
    Unspaced text ↔
      text.toList.all (fun letter => !isWhiteSpace letter) = true := by
  simp [Unspaced]

theorem Unspaced.trim (unspaced : Unspaced text) : Torchat.trim text = text := by
  refine trim_eq_self_iff.mpr ⟨?_, ?_⟩
  · simp [List.dropWhile_eq_self_iff, unspaced _ (List.getElem_mem _)]
  · simp [List.rdropWhile_eq_self_iff, unspaced _ (List.getLast_mem _)]

/-- A name that a normalization gives is fit to be shown and normal. -/
structure Stable (normalize : String → String) (nickname : String) : Prop where
  shown : trim (normalize nickname) ≠ ""
  short : (normalize nickname).toList.length ≤ 32
  trimmed : trim (normalize nickname) = normalize nickname
  again : normalize (normalize nickname) = normalize nickname

variable {installationId : InstallationId} {nickname : String}

theorem stable_iff_trimmed
    (normalized : normalizedContactNickname installationId nickname = text)
    (long : 2 ≤ text.toList.length) (short : text.toList.length ≤ 32) :
    Stable (normalizedContactNickname installationId) nickname ↔
      trim text = text := by
  subst normalized
  refine ⟨Stable.trimmed, fun trimmed => ⟨?_, short, trimmed, ?_⟩⟩
  · intro blank
    rw [← trimmed, blank] at long
    cases long
  · generalize normalizedContactNickname installationId nickname = name at *
    rw [normalizedContactNickname, trimmed, if_pos long,
      List.take_of_length_le short, String.ofList_toList]

theorem fallbackContactNickname_unspaced (unspaced : Unspaced installationId) :
    Unspaced (fallbackContactNickname installationId) ∧
    2 ≤ (fallbackContactNickname installationId).toList.length ∧
    (fallbackContactNickname installationId).toList.length ≤ 32 := by
  simp only [fallbackContactNickname, unspaced.trim]
  split
  · rename_i named
    rw [Unspaced, String.toList_ofList, List.length_take]
    refine ⟨fun character member => ?_, by omega⟩
    exact unspaced character (List.mem_of_mem_take member)
  · simp only [Unspaced, String.toList_append, String.toList_ofList,
      List.length_append, List.length_take]
    refine ⟨fun character member => ?_, ?_⟩
    · rcases List.mem_append.mp member with own | other
      · have letters : Unspaced "peer-" := unspaced_iff_all.mpr (by decide)
        exact letters character own
      · exact unspaced character (List.mem_of_mem_take other)
    · have five : "peer-".toList.length = 5 := rfl
      omega

/-- Names are cut after 32 characters, and nothing is trimmed after that. -/
theorem normalized_nickname_is_stable_iff (unspaced : Unspaced installationId) :
    Stable (normalizedContactNickname installationId) nickname ↔
      (32 < (trim nickname).toList.length →
        ∀ character ∈ (trim nickname).toList[31]?,
          isWhiteSpace character = false) := by
  by_cases long : 2 ≤ (trim nickname).toList.length
  · have normalized : normalizedContactNickname installationId nickname =
        String.ofList ((trim nickname).toList.take 32) := by
      rw [normalizedContactNickname, if_pos long]
    obtain ⟨front, back⟩ := trim_eq_self_iff.mp (trim_trim nickname)
    generalize (trim nickname).toList = characters at *
    rw [stable_iff_trimmed normalized (by simp; omega) (by simp),
      trim_eq_self_iff, String.toList_ofList]
    have starts : (characters.take 32).dropWhile isWhiteSpace =
        characters.take 32 := by
      rw [List.dropWhile_eq_self_iff] at front ⊢
      intro some
      simpa using front (by omega)
    rw [and_iff_right starts]
    by_cases late : 32 < characters.length
    · have last : ∀ some, (characters.take 32).getLast some =
          characters.get ⟨31, by omega⟩ := by
        intro some
        simp [List.getLast_eq_getElem, late.le]
      have present : characters.take 32 ≠ [] :=
        List.ne_nil_of_length_pos (by simp; omega)
      rw [List.rdropWhile_eq_self_iff, forall_prop_of_true present, last]
      simp [late, List.getElem?_eq_getElem (show 31 < characters.length by omega)]
    · rw [List.take_of_length_le (by omega)]
      exact iff_of_true back fun more => absurd more late
  · obtain ⟨plain, least, most⟩ := fallbackContactNickname_unspaced unspaced
    have normalized : normalizedContactNickname installationId nickname =
        fallbackContactNickname installationId := by
      rw [normalizedContactNickname, if_neg long]
    rw [stable_iff_trimmed normalized least most]
    exact iff_of_true plain.trim fun late => absurd late (by omega)

def longNickname : String :=
  String.ofList (List.replicate 31 'a' ++ [' '] ++ List.replicate 31 'b')

theorem plain_nickname_is_stable :
    Stable (normalizedContactNickname "peer-id") " Alice " := by
  refine (normalized_nickname_is_stable_iff
    (unspaced_iff_all.mpr (by decide))).mpr (by decide)

/-- The cut leaves a blank at the end. -/
theorem cut_nickname_keeps_a_blank :
    ¬ Stable (normalizedContactNickname "peer-id") longNickname := by
  intro stable
  have trimmed := stable.trimmed
  revert trimmed
  decide +kernel

end Torchat
