import FieldRules.Proofs.Handler.Verdict
import FieldRules.Proofs.Uri.Spelling

/-!
# URIs of a wished form

A URI can be asked to have a certain protocol, host and port. The parts of a URI are compared as they are split off it,
which brings protocol and host into small letters, with the arguments as they are written. So a wish for capital letters
is not met by any URI, the one that is spelled with these letters included (`url_verdicts`).
-/

namespace FieldRules

open Uri

namespace Handler

/-- A wish for a text that is not empty is met by that text. -/
theorem meetsText_string {wish : String} (hwish : wish ≠ "") (actual? : Option (List Char)) :
    meetsText (.string wish) actual? = (actual? == some wish.toList) := by
  have htext : (Value.string wish).text? = some wish := rfl
  unfold meetsText
  rw [htext]
  split
  · next hnone => cases hnone
  · next hempty => exact absurd (Option.some.inj hempty) hwish
  · next hsome => rw [Option.some.inj hsome]

/-- The verdict on a text that is a URI with an authority is whether it meets the wishes. -/
theorem verdict?_url {v protocol host port : Value} {f : Fragment} {u : Uri} {port? : Option Nat}
    (hread : uriAndPort? (charsOf v) = some (u, port?)) (hprotocol : f.argument 0 (some .string) = .ok protocol)
    (hhost : f.argument 1 (some .string) = .ok host) (hport : f.argument 2 (some .int) = .ok port) (ctx : Context) :
    (url.check v f ctx).verdict?
      = some (meetsText protocol (some u.scheme) && meetsText host u.host? && meetsPort port port?) := by
  have hne : (charsOf v).isEmpty = false := by
    cases hchars : charsOf v with
    | nil =>
      rw [hchars] at hread
      cases hread
    | cons c s => rfl
  -- Each wish is only looked at if the ones before it are met.
  unfold url
  dsimp only
  rw [hne, if_neg Bool.false_ne_true, hread]
  dsimp only
  rw [hprotocol, Check.liftM_ok_bind, hhost, hport]
  cases meetsText protocol (some u.scheme) with
  | false => rfl
  | true =>
    rw [Bool.not_true, if_neg Bool.false_ne_true, Check.liftM_ok_bind]
    cases meetsText host u.host? with
    | false => rfl
    | true => exact verdict?_acceptIf _ ctx f none

theorem uriAndPort?_spell {protocol host path : List Char} {port : Nat} (h : Spells protocol host path)
    (hport : port ≤ 65535) :
    uriAndPort? (spell protocol host port path) = some (spelled protocol host port path, some port) := by
  have hscheme : (spelled protocol host port path).scheme.isEmpty = false := by
    obtain ⟨c, rest, rfl⟩ := List.exists_cons_of_ne_nil h.protocol_ne_nil
    rfl
  have hauthority : (spelled protocol host port path).authority.isEmpty = false := by
    obtain ⟨c, rest, rfl, -⟩ := h.host_head
    rfl
  unfold uriAndPort?
  rw [h.split_spell]
  dsimp only [bind, Except.bind]
  rw [h.port?_spell hport]
  dsimp only [pure, Except.pure]
  rw [hscheme, hauthority]
  rfl

/-! ## Capital letters -/

/-- Whether a text has a capital letter of ASCII. -/
def hasCapital (s : String) : Bool :=
  s.toList.any Char.isUpper

/-- A wish is met by the text in small letters if it has no capital ones. -/
theorem meetsText_toLower {wish : String} (hwish : wish.toList ≠ []) (hascii : ∀ c ∈ wish.toList, c.toNat < 128) :
    meetsText (.string wish) (some (wish.toList.map Char.toLower)) = !hasCapital wish := by
  have hne : wish ≠ "" := by
    rintro rfl
    exact hwish rfl
  rw [meetsText_string hne, Bool.eq_iff_iff, beq_iff_eq, Option.some.injEq, Text.map_toLower_eq_self_iff hascii,
    Bool.not_eq_true']
  rfl

theorem meetsPort_self (port : Nat) : meetsPort (.int port) (some port) = true := by
  simp [meetsPort, Value.integer?]

/-! ## Verdicts -/

/-- The verdict on a text as a URI with the given wishes. -/
def urlVerdict? (r : Registry) (l : Leniency) (ctx : Context) (f : Fragment) (s : String) (wishes : List Value) :
    Option Bool :=
  (Dispatch.run r l (.string s) { f with name := "url", arguments := wishes } ctx).verdict?

/-- A URI as it is written with a protocol, a host, a port and a path. -/
def address (protocol host : String) (port : Nat) (path : String) : String :=
  protocol ++ "://" ++ host ++ ":" ++ toString port ++ path

theorem toList_address (protocol host path : String) (port : Nat) :
    (address protocol host port path).toList = spell protocol.toList host.toList port path.toList := by
  simp [address, spell, Nat.toString_eq_repr, Nat.toList_repr]

section Verdicts
variable {r : Registry} {protocol host path : String} {port : Nat}

theorem urlVerdict?_address (hr : r.find? "url" = some url) (h : Spells protocol.toList host.toList path.toList)
    (hport : port ≤ 65535) (l : Leniency) (ctx : Context) (f : Fragment) {wishes : List Value}
    {wishedHost wishedPort : Value} (harity : url.arity.violation? "url" wishes.length = none)
    (hprotocol : { f with name := "url", arguments := wishes }.argument 0 (some .string) = .ok (.string protocol))
    (hhost : { f with name := "url", arguments := wishes }.argument 1 (some .string) = .ok wishedHost)
    (hwishedPort : { f with name := "url", arguments := wishes }.argument 2 (some .int) = .ok wishedPort) :
    urlVerdict? r l ctx f (address protocol host port path) wishes
      = some (!hasCapital protocol && meetsText wishedHost (some (host.toList.map Char.toLower))
        && meetsPort wishedPort (some port)) := by
  have hread : uriAndPort? (charsOf (.string (address protocol host port path)))
      = some (spelled protocol.toList host.toList port path.toList, some port) := by
    rw [show charsOf (.string (address protocol host port path)) = (address protocol host port path).toList from rfl,
      toList_address, uriAndPort?_spell h hport]
  have hascii : ∀ c ∈ protocol.toList, c.toNat < 128 := fun c hc =>
    (toNat_of_isNameChar (isNameChar_of_letter (h.protocol c hc))).2
  refine (Dispatch.verdict?_run hr harity rfl l _ ctx).trans ((if_pos rfl).trans ?_)
  rw [verdict?_url hread hprotocol hhost hwishedPort, h.host?_spell, spelled,
    meetsText_toLower h.protocol_ne_nil hascii]

/-- **A URI meets the wishes for its own parts if these have no capital letters.** It comes to a verdict in any case. -/
theorem url_verdicts (hr : r.find? "url" = some url) (h : Spells protocol.toList host.toList path.toList)
    (hport : port ≤ 65535) (l : Leniency) (ctx : Context) (f : Fragment) :
    urlVerdict? r l ctx f (address protocol host port path) [.string protocol] = some (!hasCapital protocol) ∧
    urlVerdict? r l ctx f (address protocol host port path) [.string protocol, .string host]
      = some (!(hasCapital protocol || hasCapital host)) ∧
    urlVerdict? r l ctx f (address protocol host port path) [.string protocol, .string host, .int port]
      = some (!(hasCapital protocol || hasCapital host)) := by
  have hhost : meetsText (.string host) (some (host.toList.map Char.toLower)) = !hasCapital host := by
    obtain ⟨c, rest, hcons, -⟩ := h.host_head
    exact meetsText_toLower (by rw [hcons]; exact List.cons_ne_nil c rest)
      fun c hc => (toNat_of_isNameChar (h.host c hc)).2
  refine ⟨?_, ?_, ?_⟩
  · refine (urlVerdict?_address hr h hport l ctx f rfl rfl rfl rfl).trans ?_
    rw [show meetsText .none (some (host.toList.map Char.toLower)) = true from rfl,
      show meetsPort .none (some port) = true from rfl, Bool.and_true, Bool.and_true]
  · refine (urlVerdict?_address hr h hport l ctx f rfl rfl rfl rfl).trans ?_
    rw [hhost, show meetsPort .none (some port) = true from rfl, Bool.and_true, Bool.not_or]
  · refine (urlVerdict?_address hr h hport l ctx f rfl rfl rfl rfl).trans ?_
    rw [hhost, meetsPort_self, Bool.and_true, Bool.not_or]

theorem spells_server : Spells "http".toList "a.com".toList "/x".toList where
  protocol_ne_nil := by decide
  protocol := List.all_eq_true.1 rfl
  host_head := ⟨'a', ".com".toList, rfl, rfl⟩
  host := List.all_eq_true.1 rfl
  path := .inr ⟨['x'], rfl, List.all_eq_true.1 rfl⟩

/-- A URI in small letters. -/
theorem url_verdicts_server :
    Registry.builtin.find? "url" = some url ∧ Spells "http".toList "a.com".toList "/x".toList ∧ 8080 ≤ 65535 ∧
      urlVerdict? .builtin {} {} { name := "" } (address "http" "a.com" 8080 "/x") [.string "http"]
        = some (!hasCapital "http") ∧
      urlVerdict? .builtin {} {} { name := "" } (address "http" "a.com" 8080 "/x")
          [.string "http", .string "a.com", .int 8080]
        = some (!(hasCapital "http" || hasCapital "a.com")) ∧
      hasCapital "http" = false ∧ hasCapital "a.com" = false := by
  have hport : 8080 ≤ 65535 := by decide
  have h := url_verdicts (r := .builtin) rfl spells_server hport {} {} { name := "" }
  exact ⟨rfl, spells_server, hport, h.1, h.2.2, rfl, rfl⟩

/-- A URI does not meet the wish for its own protocol in capital letters. -/
theorem url_refuses_capital :
    Spells "HTTP".toList "a.com".toList "".toList ∧ address "HTTP" "a.com" 80 "" = "HTTP://a.com:80" ∧
      urlVerdict? .builtin {} {} { name := "" } "HTTP://a.com:80" [.string "HTTP"] = some false := by
  have hletters : ∀ c ∈ "HTTP".toList, isPlainLetter c = true := List.all_eq_true.1 rfl
  refine ⟨⟨by decide, hletters, spells_server.host_head, spells_server.host, .inl rfl⟩, ?_⟩
  decide +kernel

end Verdicts

end Handler

end FieldRules
