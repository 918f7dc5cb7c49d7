import ScorbitSdk.JsonText
import Mathlib.Data.List.TakeWhile

/-!
# Hosts of URLs

The host is what a URL's authority has between the user and the port, with its
percent escapes decoded.  A path behind a URL that has an authority does not
change its host.
-/

namespace ScorbitSdk.Url

/-- An authority ends where a path, a query or a fragment begins. -/
def endsAuthority (c : Char) : Bool :=
  c = '/' || c = '?' || c = '#'

/-- What follows the two slashes behind the scheme. -/
def authority (url : List Char) : List Char :=
  match url.dropWhile (· ≠ ':') with
  | ':' :: '/' :: '/' :: rest => rest.takeWhile (!endsAuthority ·)
  | _ => []

/-- The authority without the user. -/
def hostAndPort (url : List Char) : List Char :=
  ((authority url).reverse.takeWhile (· ≠ '@')).reverse

def percentDecode : List Char → List Char
  | '%' :: d₁ :: d₂ :: rest =>
      match Json.hexDigit? d₁, Json.hexDigit? d₂ with
      | some high, some low =>
          Char.ofNat (16 * high + low) :: percentDecode rest
      | _, _ => '%' :: percentDecode (d₁ :: d₂ :: rest)
  | c :: rest => c :: percentDecode rest
  | [] => []

/-- The brackets of an IPv6 address belong to the host. -/
def encodedHost (url : List Char) : List Char :=
  match hostAndPort url with
  | '[' :: rest => '[' :: rest.takeWhile (· ≠ ']') ++ [']']
  | hostAndPort => hostAndPort.takeWhile (· ≠ ':')

def host (url : List Char) : List Char :=
  percentDecode (encodedHost url)

/-- A URL that begins with a scheme and two slashes. -/
def HasAuthority (url : List Char) : Prop :=
  ∃ scheme rest, ':' ∉ scheme ∧ url = scheme ++ ':' :: '/' :: '/' :: rest

theorem dropWhile_scheme {scheme : List Char} (noColon : ':' ∉ scheme)
    (rest : List Char) :
    (scheme ++ ':' :: rest).dropWhile (· ≠ ':') = ':' :: rest := by
  rw [List.dropWhile_append_of_pos]
  · exact List.dropWhile_cons_of_neg (by simp)
  · intro c member
    simp only [ne_eq, decide_eq_true_eq]
    rintro rfl
    exact noColon member

theorem authority_scheme {scheme : List Char} (noColon : ':' ∉ scheme)
    (rest : List Char) :
    authority (scheme ++ ':' :: '/' :: '/' :: rest) =
      rest.takeWhile (!endsAuthority ·) := by
  rw [authority, dropWhile_scheme noColon]
  rfl

/-- What is taken of a text up to a mark is not changed by what is behind a
mark. -/
theorem takeWhile_append_mark {Value : Type*} {goesOn : Value → Bool}
    {mark : Value} (ends : goesOn mark = false) (text rest : List Value) :
    (text ++ mark :: rest).takeWhile goesOn = text.takeWhile goesOn := by
  induction text with
  | nil => simp [ends]
  | cons value text ih =>
      cases goes : goesOn value with
      | true => simp [goes, ih]
      | false => simp [goes]

/-- A path leaves the host as it is. -/
theorem host_append_path {url : List Char} (has : HasAuthority url)
    (path : List Char) : host (url ++ '/' :: path) = host url := by
  obtain ⟨scheme, rest, noColon, rfl⟩ := has
  have same : authority (scheme ++ ':' :: '/' :: '/' :: rest ++ '/' :: path) =
      authority (scheme ++ ':' :: '/' :: '/' :: rest) := by
    rw [List.append_assoc, authority_scheme noColon]
    simp only [List.cons_append]
    rw [authority_scheme noColon]
    exact takeWhile_append_mark rfl rest path
  simp only [host, encodedHost, hostAndPort, same]

example : host "https://me@Api.scorbit%2Eio:443/a@b:c".toList =
    "Api.scorbit.io".toList := by decide

end ScorbitSdk.Url
