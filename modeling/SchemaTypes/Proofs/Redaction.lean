import Mathlib.Data.List.Forall2
import SchemaTypes.Connection
import SchemaTypes.Proofs.Entries

/-! What redaction does to any text at all. It hides the password in front of the parameters and the
values of those parameters that hold secrets, it leaves everything else as it is and where it is,
and what it shows is shown as it is. -/
namespace SchemaTypes.Connection

/-- The parts of a text in front of the parameters, where it holds a password. -/
structure Login where
  scheme : List Char
  user : List Char
  password : List Char
  host : List Char

namespace Login

def text (l : Login) : List Char :=
  l.scheme ++ "://".toList ++ (l.user ++ ':' :: l.password ++ '@' :: l.host)

/-- The scheme ends at the first `://`, the user at the first `:` after it, and the password at the
last `@`. -/
structure Delimited (l : Login) : Prop where
  scheme : Text.EndsAtFirst "://".toList l.scheme (l.user ++ ':' :: l.password ++ '@' :: l.host)
  user : ':' ∉ l.user
  host : '@' ∉ l.host

def hidden (l : Login) : Login := { l with password := mask }

theorem Delimited.hidden {l : Login} (delimited : l.Delimited) : l.hidden.Delimited :=
  ⟨delimited.scheme.replace _, delimited.user, delimited.host⟩

end Login

/-- What is shown of the part in front of the parameters. -/
inductive ShowsBase : List Char → List Char → Prop
  | login {l : Login} (delimited : l.Delimited) : ShowsBase l.text l.hidden.text
  | plain (unhidden : ∀ l : Login, l.Delimited → base ≠ l.text) : ShowsBase base base

def secretKeys : List String := ["password", "pass", "token", "sslpassword"]

/-- What is shown of one parameter. A key ends at the first `=`. -/
inductive ShowsParameter : List Char → List Char → Prop
  | secret (ends : '=' ∉ key) (secret : Text.lowercase (String.ofList key) ∈ secretKeys) :
      ShowsParameter (key ++ '=' :: value) (key ++ '=' :: mask)
  | plain (unhidden : ∀ key value, parameter = key ++ '=' :: value → '=' ∉ key →
      Text.lowercase (String.ofList key) ∉ secretKeys) : ShowsParameter parameter parameter

/-- What is shown of a text. The parameters start behind the first `?` and are cut at each `&`. -/
inductive Shows : List Char → List Char → Prop
  | bare (absent : '?' ∉ s) (shows : ShowsBase s shown) : Shows s shown
  | parameters (ends : '?' ∉ base) (endsShown : '?' ∉ baseShown) (shows : ShowsBase base baseShown)
      (each : List.Forall₂ ShowsParameter (query.splitOn '&') (queryShown.splitOn '&')) :
      Shows (base ++ '?' :: query) (baseShown ++ '?' :: queryShown)

theorem redactAuthority_text {l : Login} (delimited : l.Delimited) :
    redactAuthority l.text = l.hidden.text := by
  have marked := Text.cutAtMark_eq_some_iff.mpr ⟨rfl, delimited.scheme⟩
  rw [Login.text, redactAuthority, marked]
  simp only [Text.cutLast_append _ delimited.host, Text.cutFirst_append delimited.user]
  simp [Login.text, Login.hidden]

theorem redactAuthority_of_none {base : List Char}
    (unhidden : ∀ l : Login, l.Delimited → base ≠ l.text) : redactAuthority base = base := by
  unfold redactAuthority
  split
  · rfl
  · next scheme rest marked =>
    split
    · rfl
    · next userinfo host last =>
      split
      · rfl
      · next user password first =>
        obtain ⟨rfl, starts⟩ := Text.cutAtMark_eq_some_iff.mp marked
        obtain ⟨rfl, absent⟩ := Text.cutLast_eq_some_iff.mp last
        obtain ⟨rfl, ends⟩ := Text.cutFirst_eq_some_iff.mp first
        exact absurd rfl (unhidden ⟨scheme, user, password, host⟩ ⟨starts, ends, absent⟩)

theorem showsBase_iff {base shown : List Char} :
    ShowsBase base shown ↔ shown = redactAuthority base := by
  constructor
  · intro shows
    cases shows with
    | login delimited => exact (redactAuthority_text delimited).symm
    | plain unhidden => exact (redactAuthority_of_none unhidden).symm
  · rintro rfl
    by_cases hidden : ∃ l : Login, l.Delimited ∧ base = l.text
    · obtain ⟨l, delimited, rfl⟩ := hidden
      rw [redactAuthority_text delimited]
      exact .login delimited
    · have unhidden : ∀ l : Login, l.Delimited → base ≠ l.text :=
        fun l delimited same => hidden ⟨l, delimited, same⟩
      rw [redactAuthority_of_none unhidden]
      exact .plain unhidden

theorem ShowsBase.again (shows : ShowsBase base shown) : ShowsBase shown shown := by
  cases shows with
  | login delimited => exact .login delimited.hidden
  | plain unhidden => exact .plain unhidden

theorem ShowsBase.not_mem (shows : ShowsBase base shown) (absent : '?' ∉ base) : '?' ∉ shown := by
  cases shows with
  | login _ =>
    have masked : '?' ∉ mask := by decide
    simp only [Login.text, Login.hidden, List.mem_append, List.mem_cons, not_or] at absent ⊢
    obtain ⟨scheme, ⟨user, colon, _⟩, host⟩ := absent
    exact ⟨scheme, ⟨user, colon, masked⟩, host⟩
  | plain _ => exact absent

theorem isSensitive_iff {key : List Char} :
    isSensitive key = true ↔ Text.lowercase (String.ofList key) ∈ secretKeys :=
  decide_eq_true_iff

theorem showsParameter_iff {parameter shown : List Char} :
    ShowsParameter parameter shown ↔ shown = redactParameter parameter := by
  constructor
  · intro shows
    cases shows with
    | secret ends secret =>
      simp only [redactParameter, Text.cutFirst_append ends, isSensitive_iff.mpr secret, if_true]
    | plain unhidden =>
      unfold redactParameter
      split
      · next key value cut =>
        obtain ⟨same, ends⟩ := Text.cutFirst_eq_some_iff.mp cut
        rw [if_neg (fun sensitive => unhidden key value same ends (isSensitive_iff.mp sensitive))]
      · rfl
  · rintro rfl
    unfold redactParameter
    split
    · next key value cut =>
      obtain ⟨rfl, ends⟩ := Text.cutFirst_eq_some_iff.mp cut
      split
      · next sensitive => exact .secret ends (isSensitive_iff.mp sensitive)
      · next other =>
        refine .plain fun otherKey otherValue same otherEnds secret => ?_
        rw [Text.cutFirst_eq_some_iff.mpr ⟨same, otherEnds⟩] at cut
        obtain ⟨rfl, rfl⟩ := Prod.mk.inj (Option.some.inj cut)
        exact other (isSensitive_iff.mpr secret)
    · next cut =>
      refine .plain fun key value same ends _ => ?_
      simp [Text.cutFirst_eq_some_iff.mpr ⟨same, ends⟩] at cut

theorem ShowsParameter.again (shows : ShowsParameter parameter shown) :
    ShowsParameter shown shown := by
  cases shows with
  | secret ends secret => exact .secret ends secret
  | plain unhidden => exact .plain unhidden

/-- A parameter up to its first `=`, or as a whole if it has none. -/
def parameterKey (parameter : List Char) : List Char := parameter.takeWhile (· ≠ '=')

theorem parameterKey_append (ends : '=' ∉ key) (value : List Char) :
    parameterKey (key ++ '=' :: value) = key := by
  have keyChars : ∀ c ∈ key, decide (c ≠ '=') = true :=
    fun c member => decide_eq_true fun same => ends (same ▸ member)
  rw [parameterKey, List.takeWhile_append_of_pos keyChars]
  simp

theorem ShowsParameter.key (shows : ShowsParameter parameter shown) :
    parameterKey shown = parameterKey parameter := by
  cases shows with
  | secret ends _ => rw [parameterKey_append ends, parameterKey_append ends]
  | plain _ => rfl

theorem ShowsParameter.not_mem (shows : ShowsParameter parameter shown) (absent : '&' ∉ parameter) :
    '&' ∉ shown := by
  cases shows with
  | secret _ _ =>
    have masked : '&' ∉ mask := by decide
    simp only [List.mem_append, List.mem_cons, not_or] at absent ⊢
    exact ⟨absent.1, absent.2.1, masked⟩
  | plain _ => exact absent

theorem splitOn_redactParameters (query : List Char) :
    (redactParameters query).splitOn '&' = (query.splitOn '&').map redactParameter := by
  apply List.splitOn_intercalate
  · intro shown member
    obtain ⟨parameter, cut, rfl⟩ := List.mem_map.mp member
    exact (showsParameter_iff.mpr rfl).not_mem (not_mem_of_mem_splitOn cut)
  · simp

theorem showsParameters_iff {query shown : List Char} :
    List.Forall₂ ShowsParameter (query.splitOn '&') (shown.splitOn '&') ↔
      shown = redactParameters query := by
  constructor
  · intro each
    have cuts : shown.splitOn '&' = (query.splitOn '&').map redactParameter := by
      rw [← List.forall₂_eq_eq_eq, List.forall₂_map_right_iff]
      exact (each.imp fun _ _ => showsParameter_iff.mp).flip
    rw [redactParameters, ← cuts, List.intercalate_splitOn]
  · rintro rfl
    rw [splitOn_redactParameters, List.forall₂_map_right_iff, List.forall₂_same]
    exact fun parameter _ => showsParameter_iff.mpr rfl

theorem shows_iff {s shown : List Char} : Shows s shown ↔ shown = redactChars s := by
  constructor
  · intro shows
    cases shows with
    | bare none base =>
      rw [redactChars, Text.cutFirst_of_not_mem none]
      exact showsBase_iff.mp base
    | parameters ends _ base each =>
      rw [redactChars, Text.cutFirst_append ends, showsBase_iff.mp base,
        showsParameters_iff.mp each]
  · rintro rfl
    by_cases parameters : '?' ∈ s
    · obtain ⟨base, query, rfl, ends⟩ := List.eq_append_cons_of_mem parameters
      have base : ShowsBase base (redactAuthority base) := showsBase_iff.mpr rfl
      rw [redactChars, Text.cutFirst_append ends]
      exact .parameters ends (base.not_mem ends) base (showsParameters_iff.mpr rfl)
    · rw [redactChars, Text.cutFirst_of_not_mem parameters]
      exact .bare parameters (showsBase_iff.mpr rfl)

theorem Shows.again (shows : Shows s shown) : Shows shown shown := by
  cases shows with
  | bare none base => exact .bare (base.not_mem none) base.again
  | parameters _ endsShown base each =>
    have both := each.flip.imp fun _ _ shows => And.intro shows.again shows
    have eachShown := ((List.forall₂_and_left _ _).mp both).1
    exact .parameters endsShown endsShown base.again (List.forall₂_same.mpr eachShown)

def parameterKeys (s : List Char) : List (List Char) :=
  match Text.cutFirst '?' s with
  | some (_, query) => (query.splitOn '&').map parameterKey
  | none => []

theorem Shows.keys (shows : Shows s shown) : parameterKeys shown = parameterKeys s := by
  cases shows with
  | bare none base =>
    simp only [parameterKeys, Text.cutFirst_of_not_mem none,
      Text.cutFirst_of_not_mem (base.not_mem none)]
  | parameters ends endsShown _ each =>
    simp only [parameterKeys, Text.cutFirst_append ends, Text.cutFirst_append endsShown]
    rw [← List.forall₂_eq_eq_eq, List.forall₂_map_right_iff, List.forall₂_map_left_iff]
    exact (each.imp fun _ _ => ShowsParameter.key).flip

/-- A text is shown in exactly one way, what is shown is shown as it is, and parameters keep their
keys and their order. -/
theorem redact_hides_secrets_only (s : String) :
    (∀ shown : String, Shows s.toList shown.toList ↔ shown = redact s) ∧
    redact (redact s) = redact s ∧
    parameterKeys (redact s).toList = parameterKeys s.toList := by
  have chars : (redact s).toList = redactChars s.toList := by rw [redact, String.toList_ofList]
  have exact (shown : String) : Shows s.toList shown.toList ↔ shown = redact s := by
    rw [shows_iff, ← chars, String.toList_inj]
  have shows : Shows s.toList (redact s).toList := (exact _).mpr rfl
  refine ⟨exact, ?_, shows.keys⟩
  rw [redact, ← shows_iff.mp shows.again, String.ofList_toList]

/-- A `:` and an `@` in a password, a key in other letters, and a secret without a value. -/
example : redact "mysql://a:b:c@d@h/x:@y?Token=&pass&x=1=2" = "mysql://a:***@y?Token=***&pass&x=1=2" := by
  decide +kernel

end SchemaTypes.Connection
