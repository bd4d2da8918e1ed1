import Mathlib.Data.List.Forall2
import MediaServer.Log.Query
import MediaServer.Proofs.Lists.Lookup
import MediaServer.Proofs.Text.Form

namespace MediaServer

/-- The same names in the same order, each with the same value but for the access token. -/
def AlikeButToken (pairs others : List (String × String)) : Prop :=
  List.Forall₂ (fun pair other => pair.1 = other.1 ∧ (pair.1 ≠ "access_token" → pair.2 = other.2))
    pairs others

variable {pairs others : List (String × String)}

/-- The value of any other name is the same. -/
theorem AlikeButToken.lookup (alike : AlikeButToken pairs others) {name : String}
    (visible : name ≠ "access_token") : pairs.lookup name = others.lookup name := by
  induction alike with
  | nil => rfl
  | @cons pair other pairs others same _ ih =>
    obtain ⟨key, value⟩ := pair
    obtain ⟨otherKey, otherValue⟩ := other
    obtain rfl : key = otherKey := same.1
    have valued : key ≠ "access_token" → value = otherValue := same.2
    rw [lookup_cons_if, lookup_cons_if, ih]
    by_cases here : name = key
    · subst here
      rw [valued visible]
    · simp [here]

/-- With the secret values hidden there is no difference left. -/
theorem AlikeButToken.hidden (alike : AlikeButToken pairs others) :
    pairs.map hideSecret = others.map hideSecret := by
  induction alike with
  | nil => rfl
  | @cons pair other pairs others same _ ih =>
    obtain ⟨key, value⟩ := pair
    obtain ⟨otherKey, otherValue⟩ := other
    obtain rfl : key = otherKey := same.1
    have valued : key ≠ "access_token" → value = otherValue := same.2
    rw [List.map_cons, List.map_cons, ih]
    by_cases secret : key = "access_token"
    · simp [hideSecret, secretParameters, secret]
    · simp [hideSecret, secretParameters, secret, valued secret]

theorem logSafeQuery_congr {query? other? : Option String}
    (alike : AlikeButToken (Form.decode (query?.getD "")) (Form.decode (other?.getD ""))) :
    logSafeQuery query? = logSafeQuery other? := by
  rw [logSafeQuery, logSafeQuery, alike.hidden]

theorem hideSecret_eq (pair : String × String) :
    hideSecret pair = (pair.1, if pair.1 = "access_token" then "redacted" else pair.2) := by
  by_cases secret : pair.1 = "access_token"
  · simp [hideSecret, secretParameters, secret]
  · simp [hideSecret, secretParameters, secret]

theorem hideSecret_idem (pair : String × String) : hideSecret (hideSecret pair) = hideSecret pair := by
  simp only [hideSecret_eq]
  split <;> rfl

/-- What is logged of a query is read as the pairs of the query. -/
theorem decode_logSafeQuery (query? : Option String) :
    Form.decode (logSafeQuery query?) = (Form.decode (query?.getD "")).map hideSecret := by
  rw [logSafeQuery, Form.decode_encode]

/-- Who reads what is logged of a query finds all its pairs, in their order and as often as they were there, each
as it was but for the values of access tokens. What is logged is visible ASCII, and logging it again gives the same. -/
theorem logSafeQuery_faithful (query? : Option String) :
    Form.decode (logSafeQuery query?) = (Form.decode (query?.getD "")).map (fun (name, value) =>
        (name, if name = "access_token" then "redacted" else value)) ∧
      (∀ c ∈ (logSafeQuery query?).toList, 0x21 ≤ c.toNat ∧ c.toNat ≤ 0x7E) ∧
      logSafeQuery (some (logSafeQuery query?)) = logSafeQuery query? := by
  refine ⟨?_, Form.encode_visible _, ?_⟩
  · rw [decode_logSafeQuery]
    exact List.map_congr_left fun pair _ => hideSecret_eq pair
  · have again : (Form.decode (logSafeQuery query?)).map hideSecret =
        (Form.decode (query?.getD "")).map hideSecret := by
      rw [decode_logSafeQuery, List.map_map]
      exact List.map_congr_left fun pair _ => hideSecret_idem pair
    rw [logSafeQuery, Option.getD_some, again, ← logSafeQuery]

/-- The name of a token may be written in hexadecimal, a value may hold more equals signs or be missing, and what
is no text is read as U+FFFD. -/
theorem disguisedToken_logged :
    Form.decode (logSafeQuery (some "a=+%&&access%5Ftoken=s=t&b&a=%FF")) =
        [("a", " %"), ("access_token", "redacted"), ("b", ""), ("a", "\uFFFD")] ∧
      '+' ∈ (logSafeQuery (some "a=+%&&access%5Ftoken=s=t&b&a=%FF")).toList ∧ 0x21 ≤ '+'.toNat ∧
      '+'.toNat ≤ 0x7E := by
  obtain ⟨decoded, visible, _⟩ := logSafeQuery_faithful (some "a=+%&&access%5Ftoken=s=t&b&a=%FF")
  have space : '+' ∈ (logSafeQuery (some "a=+%&&access%5Ftoken=s=t&b&a=%FF")).toList := by decide +kernel
  refine ⟨decoded.trans (by decide +kernel), space, visible '+' space⟩

end MediaServer
