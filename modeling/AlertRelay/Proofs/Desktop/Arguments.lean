import AlertRelay.Desktop
import AlertRelay.Proofs.Alert

/-!
# The command line of a notification

A request reaches the client program as a list of arguments. Of an alert's arguments only the three
fixed options look like options: the key stands behind fixed words, and the body begins with a digit.
Nothing of a request is lost in its arguments, so alerts that differ are shown by different ones.
-/
namespace AlertRelay

namespace Request

/-- A program takes such an argument for an option. -/
def isOption (argument : String) : Bool := argument.toList.head? = some '-'

theorem isOption_append {text : String} (filled : text.toList ≠ []) (more : String) :
    isOption (text ++ more) = isOption text := by
  obtain ⟨c, cs, chars⟩ := List.exists_cons_of_ne_nil filled
  rw [isOption, isOption, String.toList_append, chars]
  rfl

theorem isOption_bodyOf (count : UInt32) : isOption (bodyOf count) = false := by
  obtain ⟨c, first, digit⟩ := head?_bodyOf count
  rw [isOption, first, decide_eq_false_iff_not]
  rintro ⟨⟩
  cases digit

/-! ## From arguments to requests -/

/-- What stands in front of the tag in its argument. -/
def hintWord : String := "string:x-canonical-private-synchronous:"

def tagOfHint (hint : String) : String := String.ofList (hint.toList.drop hintWord.toList.length)

theorem tagOfHint_append (tag : String) : tagOfHint (hintWord ++ tag) = tag := by
  rw [tagOfHint, String.toList_append, List.drop_left, String.ofList_toList]

/-- The request that some arguments were made from. -/
def ofArguments? : List String → Option Request
  | [_, _, _, _, _, hint, title, body] => some ⟨title, body, tagOfHint hint, true⟩
  | [_, _, _, hint, title, body] => some ⟨title, body, tagOfHint hint, false⟩
  | _ => none

theorem ofArguments?_arguments (r : Request) : ofArguments? r.arguments = some r := by
  obtain ⟨title, body, tag, stays⟩ := r
  cases stays with
  | true => exact congrArg (fun tag' => some (Request.mk title body tag' true)) (tagOfHint_append tag)
  | false => exact congrArg (fun tag' => some (Request.mk title body tag' false)) (tagOfHint_append tag)

theorem arguments_injective : Function.Injective arguments := by
  intro r r' same
  have read := congrArg ofArguments? same
  rw [ofArguments?_arguments, ofArguments?_arguments] at read
  exact Option.some.inj read

/-- An option stands only in front of a fixed value. -/
theorem options_of_alert (key : String) (count : UInt32) :
    (Decision.compose key count).request.arguments.zipIdx.filter (fun a => isOption a.1) =
      [("--urgency", 0), ("--app-name", 2), ("--hint", 4)] := by
  have hint : isOption (hintWord ++ tagOf key) = isOption hintWord :=
    isOption_append (by decide +kernel) _
  have title : isOption ("Detection alert: " ++ key) = isOption "Detection alert: " :=
    isOption_append (by decide +kernel) _
  have listed : (Decision.compose key count).request.arguments =
      ["--urgency", "critical", "--app-name", applicationName, "--hint", hintWord ++ tagOf key,
        "Detection alert: " ++ key, bodyOf count] := rfl
  have options : ["--urgency", "--app-name", "--hint"].map isOption = [true, true, true] := by
    decide +kernel
  have values : ["critical", applicationName, hintWord, "Detection alert: "].map isOption =
      [false, false, false, false] := by decide +kernel
  simp only [List.map_cons, List.map_nil, List.cons.injEq] at options values
  simp [listed, List.zipIdx_cons, hint, title, isOption_bodyOf, options, values]

/-- Whatever the key of an alert is and whatever its count: it is shown by eight arguments, of which
those at the first, third and fifth place and no others look like options, and these are fixed; and two
alerts are shown by the same arguments only if key and count are the same. Of any request title, body,
tag and whether it stays are read back from its arguments. -/
theorem arguments_tell_requests :
    (∀ key count, (Decision.compose key count).request.arguments.length = 8 ∧
      (Decision.compose key count).request.arguments.zipIdx.filter (fun a => isOption a.1) =
        [("--urgency", 0), ("--app-name", 2), ("--hint", 4)]) ∧
    (∀ key key' count count', (Decision.compose key count).request.arguments =
        (Decision.compose key' count').request.arguments ↔ key = key' ∧ count = count') ∧
    (∀ r : Request, ofArguments? r.arguments = some r) ∧
    Function.Injective arguments := by
  refine ⟨fun key count => ⟨rfl, options_of_alert key count⟩, ?_, ofArguments?_arguments,
    arguments_injective⟩
  intro key key' count count'
  rw [arguments_injective.eq_iff, Decision.request_compose_inj]

end Request
end AlertRelay
