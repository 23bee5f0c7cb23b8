import Playground.Http.Endpoint
import Playground.Proofs.Json.Size
import Playground.Proofs.Source.Counters

set_option autoImplicit false

/-! # Scores fit their counters

Sources come in messages, and a message is only read up to a limit. Nothing that is read of it is
longer than it is, so every source that comes to be scored is far from those for which counters of
32 bits would not do. -/

namespace Playground.Http

open Json (Record FieldValue)
open Source

variable {words : FaultWords} {record : Record} {r : Request} {values : List FieldValue}

theorem length_le_of_readBody (h : readBody words record r = .ok values) :
    r.body.length ≤ 2 ^ 21 ∧ ∀ s, some s ∈ values → s.length ≤ r.body.length := by
  unfold readBody at h
  split at h
  · cases h
  · split at h
    · cases h
    · next hlimit =>
        refine ⟨Nat.le_of_not_lt hlimit, fun s hs => ?_⟩
        split at h
        · next fields rest hread =>
            obtain rfl := Except.ok.inj h
            exact Record.length_le_of_read_decode hread hs
        · cases h

/-- How far a source can be scored. -/
structure ScoresFit (source : List Char) : Prop where
  stripped_le : (stripped source).length ≤ 4 * source.length
  score_le : ∀ l, (Scores.ofSource source).get l ≤ 20 * source.length
  /-- No number of occurrences is replaced by a smaller one that has 32 bits. -/
  occurrences_lt : source.length ≤ 2 ^ 27 →
    ∀ l : Language, l.vocabulary.countIdioms (stripped source) < UInt32.size
  /-- No addition on the way goes beyond 32 bits, for one that does has no result. -/
  counted : source.length ≤ 2 ^ 27 →
    ∃ s, Counters.ofSource? source = some s ∧ s.toScores = Scores.ofSource source

/-- The stripped text of a source has at most four times its characters, and each score is at most
    twenty times as high as it is long; so up to 2^27 characters all is counted in 32 bits. No text
    that is read from a message has more than 2^21. -/
theorem scores_fit_their_counters :
    (∀ source, ScoresFit source) ∧
      ∀ (words : FaultWords) (record : Record) (r : Request) (values : List FieldValue),
        readBody words record r = .ok values →
          r.body.length ≤ 2 ^ 21 ∧ ∀ s, some s ∈ values → s.toList.length ≤ 2 ^ 21 := by
  refine ⟨fun source => ⟨length_stripped_le source, Scores.get_ofSource_le source,
    fun h => (Counters.exists_ofSource?_eq h).1, fun h => (Counters.exists_ofSource?_eq h).2⟩, ?_⟩
  intro words record r values h
  obtain ⟨hbody, htexts⟩ := length_le_of_readBody h
  exact ⟨hbody, fun s hs => Nat.le_trans (String.length_toList ▸ htexts s hs) hbody⟩

/-- For a quote alone the stripped text is as long as it can be. -/
theorem scores_fit_their_counters_quote :
    ['"'].length ≤ 2 ^ 27 ∧ (stripped ['"']).length = 4 * ['"'].length ∧
      ∃ s, Counters.ofSource? ['"'] = some s ∧ s.toScores = Scores.ofSource ['"'] := by
  have hlength : ['"'].length ≤ 2 ^ 27 := by decide
  have hstripped : stripped ['"'] = placeholder := by decide +kernel
  refine ⟨hlength, ?_, (scores_fit_their_counters.1 ['"']).counted hlength⟩
  rw [hstripped]
  rfl

end Playground.Http
