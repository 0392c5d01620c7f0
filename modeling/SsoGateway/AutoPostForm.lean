import SsoGateway.Lib.Markup

/-!
# The auto-post form

A response goes to the service provider in a form that posts itself. Its three values are escaped by five
replacements, one after another, and stand between double quotes.

* `htmlEscape`, `autoPostForm` — the escaping, and the page.
* `references_htmlEntities` — the five entities can be told apart.
* `autoPost_unbreakable` — no value ends its attribute, and each is read as it was given.

Source: `services/handlers/saml_idp.rs`.
-/

namespace SsoGateway

open Lib

/-- The replacements of `html_escape`, in their order. -/
def htmlEntities : List (Char × String) :=
  [('&', "&amp;"), ('\'', "&#x27;"), ('<', "&lt;"), ('>', "&gt;"), ('"', "&quot;")]

/-- Source: `html_escape`. -/
def htmlEscape (value : String) : String :=
  let value := replaceChar value '&' "&amp;"
  let value := replaceChar value '\'' "&#x27;"
  let value := replaceChar value '<' "&lt;"
  let value := replaceChar value '>' "&gt;"
  replaceChar value '"' "&quot;"

/-- Source: the page of `sso`, up to the address that it posts to. -/
def formHead : String :=
  "<!DOCTYPE html>\n<html><body onload=\"document.forms[0].submit()\">\n<form method=\"post\" action=\""

/-- Between the address and the response. -/
def formResponse : String := "\">\n<input type=\"hidden\" name=\"SAMLResponse\" value=\""

/-- Between the response and the relay state. -/
def formRelay : String := "\"/>\n<input type=\"hidden\" name=\"RelayState\" value=\""

/-- The end of the page. -/
def formTail : String :=
  "\"/>\n<noscript><button type=\"submit\">Continue</button></noscript>\n</form></body></html>"

/-- Source: the page of `sso`. -/
def autoPostForm (acsUrl samlResponse : String) (relayState : Option String) : String :=
  formHead ++ htmlEscape acsUrl ++ formResponse ++ htmlEscape samlResponse ++ formRelay ++
    htmlEscape (relayState.getD "") ++ formTail

/-! ## The entities -/

theorem htmlEscape_eq (value : String) : htmlEscape value = replaceEach htmlEntities value := rfl

/-- The five entities can be told apart. -/
theorem references_htmlEntities : References htmlEntities where
  amp := by decide
  clean := by
    intro e he d hd
    have hall : htmlEntities.all (fun e => e.2.toList.tail.all fun d => (htmlEntities.lookup d).isNone) =
        true := by
      decide
    simpa using List.all_eq_true.mp (List.all_eq_true.mp hall e he) d hd
  key := by decide
  apart := by decide

/-- Ampersands are replaced first, so no replacement touches what an earlier one wrote. -/
theorem toList_htmlEscape (value : String) :
    (htmlEscape value).toList = value.toList.flatMap (escapeRef htmlEntities) := by
  rw [htmlEscape_eq]
  apply replaceEach_eq
  decide

/-- Of the five characters, only ampersands are left. -/
theorem mem_htmlEscape {value : String} {c : Char} (hc : c ∈ (htmlEscape value).toList) :
    c ∉ ['<', '>', '"', '\''] := by
  rw [toList_htmlEscape] at hc
  intro hmem
  simp only [List.mem_cons, List.not_mem_nil, or_false] at hmem
  rcases References.lookup_of_mem references_htmlEntities hc with rfl | hnone
  · simp at hmem
  · rcases hmem with rfl | rfl | rfl | rfl <;> exact absurd hnone (by decide)

theorem decodeRefs_htmlEscape (value : String) : decodeRefs htmlEntities (htmlEscape value) = value := by
  have hlist : htmlEscape value = String.ofList (value.toList.flatMap (escapeRef htmlEntities)) := by
    rw [← toList_htmlEscape, String.ofList_toList]
  rw [hlist, References.decodeRefs_escape references_htmlEntities]

/-! ## The page -/

/-- An escaped value between quotes is read as it was given. -/
theorem scan_escaped (value : String) (name back : List Char) :
    scan htmlEntities (.quoted name []) ((htmlEscape value).toList ++ '"' :: back) =
      (.attribute (String.ofList name) value :: (scan htmlEntities (.attributes []) back).1,
        (scan htmlEntities (.attributes []) back).2) := by
  have hquote : '"' ∉ (htmlEscape value).toList := fun h => mem_htmlEscape h (by decide)
  have hvalue : String.ofList (decodeFrom htmlEntities 0 (htmlEscape value).toList) = value :=
    decodeRefs_htmlEscape value
  rw [scan_quoted hquote, hvalue]

/-- The page is read as its tags with the three values, whatever they are. -/
theorem readMarkup_autoPostForm (acsUrl samlResponse : String) (relayState : Option String) :
    readMarkup htmlEntities (autoPostForm acsUrl samlResponse relayState) =
      [.tag "!DOCTYPE", .tag "html", .tag "body", .attribute "onload" "document.forms[0].submit()",
        .tag "form", .attribute "method" "post", .attribute "action" acsUrl,
        .tag "input", .attribute "type" "hidden", .attribute "name" "SAMLResponse",
        .attribute "value" samlResponse,
        .tag "input", .attribute "type" "hidden", .attribute "name" "RelayState",
        .attribute "value" (relayState.getD ""),
        .tag "noscript", .tag "button", .attribute "type" "submit", .tag "/button", .tag "/noscript",
        .tag "/form", .tag "/body", .tag "/html"] := by
  have hhead : scan htmlEntities .text formHead.toList =
      ([.tag "!DOCTYPE", .tag "html", .tag "body", .attribute "onload" "document.forms[0].submit()",
        .tag "form", .attribute "method" "post"], .quoted "action".toList []) := by decide +kernel
  have hresponse : scan htmlEntities (.attributes []) (formResponse.toList.drop 1) =
      ([.tag "input", .attribute "type" "hidden", .attribute "name" "SAMLResponse"],
        .quoted "value".toList []) := by decide +kernel
  have hrelay : scan htmlEntities (.attributes []) (formRelay.toList.drop 1) =
      ([.tag "input", .attribute "type" "hidden", .attribute "name" "RelayState"],
        .quoted "value".toList []) := by decide +kernel
  have htail : scan htmlEntities (.attributes []) (formTail.toList.drop 1) =
      ([.tag "noscript", .tag "button", .attribute "type" "submit", .tag "/button", .tag "/noscript",
        .tag "/form", .tag "/body", .tag "/html"], .text) := by decide +kernel
  have hquote : ∀ s ∈ [formResponse, formRelay, formTail], s.toList = '"' :: s.toList.drop 1 := by decide
  have hform : (autoPostForm acsUrl samlResponse relayState).toList =
      formHead.toList ++ ((htmlEscape acsUrl).toList ++ '"' :: (formResponse.toList.drop 1 ++
        ((htmlEscape samlResponse).toList ++ '"' :: (formRelay.toList.drop 1 ++
          ((htmlEscape (relayState.getD "")).toList ++ '"' :: formTail.toList.drop 1))))) := by
    rw [← List.cons_append, ← List.cons_append, ← hquote formResponse (by simp),
      ← hquote formRelay (by simp), ← hquote formTail (by simp)]
    simp only [autoPostForm, String.toList_append, List.append_assoc]
  rw [readMarkup, hform, scan_append, hhead, scan_escaped, scan_append, hresponse, scan_escaped, scan_append,
    hrelay, scan_escaped, htail]
  simp only [String.ofList_toList, List.cons_append, List.nil_append]

end SsoGateway
