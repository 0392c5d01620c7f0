import SsoGateway.BrandedProxy
import SsoGateway.LoginGate
import SsoGateway.Lib.UrlHead

/-!
# URLs of the backend

Kratos answers with URLs of its own. They are moved to the gateway: a route of a browser flow to its branded
path, anything else to the same path.

* `rewriteUrl`, `rewriteJsonUrls`, `rewriteBrowserUrl` — the rewriting of a URL, of a document, and of a
  route with the URLs in its query.
* `Continues` — a URL written behind a base.
* `rewriting_keeps_to_origin` — such a URL comes to the origin of the gateway, and one that has nothing to do
  with the bases stays.
* `route_left_on_kratos` — what is no route of a browser flow is left where it is.

Whether a URL belongs to a base is told from the text. Source: `services/self_service_url_rewriter.rs`.
-/

namespace SsoGateway

open Lib

/-! ## Documents -/

mutual

/-- A document with every text in it changed. -/
def mapTexts (f : String → String) : Value → Value
  | .str s => .str (f s)
  | .arr items => .arr (mapItems f items)
  | .obj fields => .obj (mapFields f fields)
  | v => v

/-- The items of an array. -/
def mapItems (f : String → String) : List Value → List Value
  | [] => []
  | v :: items => mapTexts f v :: mapItems f items

/-- The fields of an object; the keys stay. -/
def mapFields (f : String → String) : List (String × Value) → List (String × Value)
  | [] => []
  | (k, v) :: fields => (k, mapTexts f v) :: mapFields f fields

end

/-- Source: `rewrite_json_urls`. -/
def rewriteJsonUrls (v : Value) (kratosPublicUrl gatewayUrl : String) : Value :=
  mapTexts (fun s => rewriteUrl s kratosPublicUrl gatewayUrl) v

/-- What stands at a place of a document. -/
inductive Node where
  | null
  | bool (b : Bool)
  | number (text : String)
  | str (s : String)
  | arr (length : ℕ)
  | obj (keys : List String)
deriving DecidableEq, Repr

/-- The node with its text changed, if it is one. -/
def Node.mapText (f : String → String) : Node → Node
  | .str s => .str (f s)
  | node => node

/-- The node of a document. -/
def nodeOf : Value → Node
  | .null => .null
  | .bool b => .bool b
  | .number text => .number text
  | .str s => .str s
  | .arr items => .arr items.length
  | .obj fields => .obj (fields.map (·.1))

/-- What is right below a document. -/
def below : Value → List Value
  | .arr items => items
  | .obj fields => fields.map (·.2)
  | _ => []

/-- The node at a place, which is given by the positions on the way to it. -/
def nodeAt (v : Value) : List ℕ → Option Node
  | [] => some (nodeOf v)
  | i :: place => (below v)[i]?.bind fun v' => nodeAt v' place

theorem mapItems_eq (f : String → String) (items : List Value) : mapItems f items = items.map (mapTexts f) := by
  induction items with
  | nil => rfl
  | cons v items ih => rw [mapItems, ih, List.map_cons]

theorem mapFields_eq (f : String → String) (fields : List (String × Value)) :
    mapFields f fields = fields.map fun kv => (kv.1, mapTexts f kv.2) := by
  induction fields with
  | nil => rfl
  | cons kv fields ih => rw [mapFields, ih, List.map_cons]

theorem nodeOf_mapTexts (f : String → String) (v : Value) : nodeOf (mapTexts f v) = (nodeOf v).mapText f := by
  cases v <;> simp [mapTexts, nodeOf, Node.mapText, mapItems_eq, mapFields_eq, Function.comp_def]

theorem below_mapTexts (f : String → String) (v : Value) : below (mapTexts f v) = (below v).map (mapTexts f) := by
  cases v <;> simp [mapTexts, below, mapItems_eq, mapFields_eq, Function.comp_def]

/-- **A document keeps everything but its texts**, place by place. -/
theorem nodeAt_mapTexts (f : String → String) (v : Value) (place : List ℕ) :
    nodeAt (mapTexts f v) place = (nodeAt v place).map (Node.mapText f) := by
  induction place generalizing v with
  | nil => simp only [nodeAt, nodeOf_mapTexts, Option.map_some]
  | cons i place ih =>
      rw [nodeAt, nodeAt, below_mapTexts, List.getElem?_map]
      rcases (below v)[i]? with _ | v'
      · rfl
      · exact ih v'

/-! ## Routes -/

/-- Source: `NESTED_URL_PARAMS`. -/
def nestedUrlParams : List String := ["return_to", "redirect_uri"]

/-- A pair of a query, whose value is a URL under some keys. -/
def rewritePair (rewrite : String → String) (pair : String × String) : String × String :=
  if pair.1 ∈ nestedUrlParams then (pair.1, rewrite pair.2) else pair

/-- Source: `rewrite_nested_query`. -/
def rewriteNestedQuery (rewrite : String → String) (query : String) : String :=
  formSerialize ((formPairs query).map (rewritePair rewrite))

/-- The branded path of a URL that is rewritten. -/
def brandedPath (hosts : String → Option String) (paths : SelfServicePaths) (kratosUrl gatewayUrl url : String) :
    Option (Url × String) :=
  if startsWith url (trimEndMatches kratosUrl '/') = false ∧ startsWith url (trimEndMatches gatewayUrl '/') = false then
    none
  else
    (Url.parse hosts url).bind fun parsed =>
      (paths.gatewayPathForKratos parsed.path).map fun branded => (parsed, branded)

/-- A branded path at the gateway, with a query and a fragment. -/
def atGateway (gatewayUrl branded : String) (query fragment : Option String) : String :=
  trimEndMatches gatewayUrl '/' ++ branded ++ (query.map fun q => "?" ++ q).getD "" ++
    (fragment.map fun f => "#" ++ f).getD ""

/-- Source: `rewrite_browser_url`, with the URLs of the query rewritten at most `fuel` deep. -/
def rewriteBrowserWithin (hosts : String → Option String) (paths : SelfServicePaths) :
    ℕ → String → String → String → String
  | 0, _, _, url => url
  | fuel + 1, kratosUrl, gatewayUrl, url =>
      match brandedPath hosts paths kratosUrl gatewayUrl url with
      | none => url
      | some (parsed, branded) =>
          atGateway gatewayUrl branded (parsed.query.map (rewriteNestedQuery (rewriteBrowserWithin hosts paths fuel
            (trimEndMatches kratosUrl '/') (trimEndMatches gatewayUrl '/')))) parsed.fragment

/-- Source: `rewrite_browser_url`. A URL in a query is shorter than the URL around it. -/
def rewriteBrowserUrl (hosts : String → Option String) (paths : SelfServicePaths)
    (kratosUrl gatewayUrl url : String) : String :=
  rewriteBrowserWithin hosts paths (byteLen url.toList + 1) kratosUrl gatewayUrl url

/-! ## Origins -/

/-- A URL that is written behind a base: nothing follows the base, or a separator does. -/
def Continues (base url : String) (rest : List Char) : Prop :=
  url.toList = (trimEndMatches base '/').toList ++ rest ∧ Separated rest

/-- A URL on the origin of a base. -/
def OnOriginOf (hosts : String → Option String) (base url : String) : Prop :=
  ∃ b u, Url.parse hosts base = some b ∧ Url.parse hosts url = some u ∧ u.origin = b.origin

instance (hosts : String → Option String) (base url : String) : Decidable (OnOriginOf hosts base url) :=
  decidable_of_iff (((Url.parse hosts base).any fun b => (Url.parse hosts url).any fun u =>
      u.origin = b.origin) = true)
    (by simp [OnOriginOf, Option.any_eq_true])

/-- A base that is a URL, and is written without white space behind it. -/
structure BaseUrl (hosts : String → Option String) (base : String) : Prop where
  parses : (Url.parse hosts base).isSome
  clean : EndsClean (trimEndMatches base '/').toList

section origins

variable {hosts : String → Option String} {paths : SelfServicePaths} {base kratosUrl gatewayUrl url : String}
  {rest : List Char}

/-- What continues a base is on its origin. -/
theorem onOriginOf_of_continues (hbase : BaseUrl hosts base) (h : Continues base url rest) :
    OnOriginOf hosts base url := by
  obtain ⟨b, hb⟩ := Option.isSome_iff_exists.mp hbase.parses
  obtain ⟨slashes, hslashes, hall⟩ := trimEndMatches_append base '/'
  have hb' : Url.parse hosts (String.ofList base.toList) = some b := by
    rw [String.ofList_toList]
    exact hb
  have hslash : ∀ c ∈ slashes, isSlash c = true := by
    intro c hc
    rw [hall c hc]
    rfl
  obtain ⟨u, hu, horigin⟩ := origin_append hb' hslashes hslash hbase.clean h.2
  rw [← h.1, String.ofList_toList] at hu
  exact ⟨b, u, hb, hu, horigin⟩

theorem startsWith_of_continues (h : Continues base url rest) :
    startsWith url (trimEndMatches base '/') = true := by
  rw [startsWith, List.isPrefixOf_iff_prefix, h.1]
  exact List.prefix_append _ _

/-- A URL behind the base of Kratos is moved behind the base of the gateway. -/
theorem rewriteUrl_continues (h : Continues kratosUrl url rest) :
    Continues gatewayUrl (rewriteUrl url kratosUrl gatewayUrl) rest := by
  have hurl : url = trimEndMatches kratosUrl '/' ++ String.ofList rest := by
    rw [← String.toList_inj, h.1]
    simp
  refine ⟨?_, h.2⟩
  rw [rewriteUrl, hurl, stripStart_append]
  simp

theorem rewriteUrl_of_not (h : startsWith url (trimEndMatches kratosUrl '/') = false) :
    rewriteUrl url kratosUrl gatewayUrl = url := by
  rw [rewriteUrl, stripStart, if_neg (by simp [h])]

/-- One step of the rewriting. -/
theorem rewriteBrowserUrl_of_none (h : brandedPath hosts paths kratosUrl gatewayUrl url = none) :
    rewriteBrowserUrl hosts paths kratosUrl gatewayUrl url = url := by
  rw [rewriteBrowserUrl, rewriteBrowserWithin, h]

theorem rewriteBrowserUrl_of_some {parsed : Url} {branded : String}
    (h : brandedPath hosts paths kratosUrl gatewayUrl url = some (parsed, branded)) :
    ∃ query, rewriteBrowserUrl hosts paths kratosUrl gatewayUrl url =
      atGateway gatewayUrl branded query parsed.fragment := by
  rw [rewriteBrowserUrl, rewriteBrowserWithin, h]
  exact ⟨_, rfl⟩

/-- A branded path begins at the root. -/
theorem gatewayPath_absolute (hpaths : paths.validate = .ok ()) {path branded : String}
    (h : paths.gatewayPathForKratos path = some branded) : ∃ l, branded.toList = '/' :: l := by
  rw [gatewayPathForKratos_eq, List.findSome?_eq_some_iff] at h
  obtain ⟨_, r, _, -, hr, -⟩ := h
  obtain ⟨suffix, -, rfl⟩ := Option.map_eq_some_iff.mp hr
  have habsolute := (accepted_of_validate hpaths (List.mem_map.mpr (pathOf_mem_vars paths r.2))).absolute
  rw [startsWith, List.isPrefixOf_iff_prefix] at habsolute
  obtain ⟨l, hl⟩ := habsolute
  exact ⟨l ++ suffix.toList, by rw [String.toList_append, ← hl]; rfl⟩

/-- What is put behind the base of the gateway continues it. -/
theorem atGateway_continues {branded : String} (query fragment : Option String)
    (h : ∃ l, branded.toList = '/' :: l) :
    ∃ rest, Continues gatewayUrl (atGateway gatewayUrl branded query fragment) rest := by
  obtain ⟨l, hl⟩ := h
  refine ⟨'/' :: (l ++ ((query.map fun q => "?" ++ q).getD "").toList ++
    ((fragment.map fun f => "#" ++ f).getD "").toList), ?_, ?_⟩
  · simp only [atGateway, String.toList_append, hl, List.append_assoc, List.cons_append]
  · intro c t hct
    obtain ⟨rfl, -⟩ := List.cons.inj hct
    exact .inl rfl

/-- A URL behind one of the bases is looked at. -/
theorem brandedPath_of_continues (paths : SelfServicePaths) {u : Url} (hurl : Url.parse hosts url = some u)
    (h : Continues kratosUrl url rest ∨ Continues gatewayUrl url rest) :
    brandedPath hosts paths kratosUrl gatewayUrl url =
      (paths.gatewayPathForKratos u.path).map fun branded => (u, branded) := by
  rw [brandedPath, if_neg, hurl, Option.bind_some]
  rintro ⟨hkratos, hgateway⟩
  rcases h with h | h
  · simp [startsWith_of_continues h] at hkratos
  · simp [startsWith_of_continues h] at hgateway

end origins

/-! ## The rewriting -/

/-- **The rewriting keeps to the origins of the bases.** A URL that is written behind the base of Kratos is moved
to the origin of the gateway; by the rewriting of routes, which looks at the base of the gateway as well, just if
it is a route of a browser flow. A URL that neither begins as a base nor is on its origin stays as it is. In a
document this is done to every text, and nothing else is changed. -/
theorem rewriting_keeps_to_origin (hosts : String → Option String) (paths : SelfServicePaths)
    (kratosUrl gatewayUrl : String) (hpaths : paths.validate = .ok ()) (hkratos : BaseUrl hosts kratosUrl)
    (hgateway : BaseUrl hosts gatewayUrl) :
    (∀ url rest, Continues kratosUrl url rest → OnOriginOf hosts kratosUrl url ∧
      OnOriginOf hosts gatewayUrl (rewriteUrl url kratosUrl gatewayUrl)) ∧
    (∀ url, startsWith url (trimEndMatches kratosUrl '/') = false → ¬ OnOriginOf hosts kratosUrl url →
      rewriteUrl url kratosUrl gatewayUrl = url) ∧
    (∀ url u rest, Continues kratosUrl url rest ∨ Continues gatewayUrl url rest →
      Url.parse hosts url = some u →
      if (paths.gatewayPathForKratos u.path).isSome then
        OnOriginOf hosts gatewayUrl (rewriteBrowserUrl hosts paths kratosUrl gatewayUrl url)
      else rewriteBrowserUrl hosts paths kratosUrl gatewayUrl url = url) ∧
    (∀ url, startsWith url (trimEndMatches kratosUrl '/') = false →
      startsWith url (trimEndMatches gatewayUrl '/') = false →
      ¬ OnOriginOf hosts kratosUrl url → ¬ OnOriginOf hosts gatewayUrl url →
      rewriteBrowserUrl hosts paths kratosUrl gatewayUrl url = url) ∧
    ∀ v place, nodeAt (rewriteJsonUrls v kratosUrl gatewayUrl) place =
      (nodeAt v place).map (Node.mapText fun s => rewriteUrl s kratosUrl gatewayUrl) := by
  refine ⟨?_, ?_, ?_, ?_, ?_⟩
  · intro url rest h
    exact ⟨onOriginOf_of_continues hkratos h, onOriginOf_of_continues hgateway (rewriteUrl_continues h)⟩
  · intro url h _
    exact rewriteUrl_of_not h
  · intro url u rest h hurl
    have hlook := brandedPath_of_continues paths hurl h
    rcases hroute : paths.gatewayPathForKratos u.path with _ | branded
    · rw [hroute, Option.map_none] at hlook
      simpa using rewriteBrowserUrl_of_none hlook
    · rw [hroute, Option.map_some] at hlook
      obtain ⟨query, hquery⟩ := rewriteBrowserUrl_of_some hlook
      obtain ⟨rest', hrest'⟩ := atGateway_continues query u.fragment (gatewayPath_absolute hpaths hroute)
      rw [hquery]
      simpa using onOriginOf_of_continues hgateway hrest'
  · intro url hkratos' hgateway' _ _
    apply rewriteBrowserUrl_of_none
    rw [brandedPath, if_pos ⟨hkratos', hgateway'⟩]
  · intro v place
    exact nodeAt_mapTexts _ v place

/-- The base of Kratos and that of the gateway. -/
def kratosBase : String := "http://kratos.example.com"

/-- The base of the gateway. -/
def gatewayBase : String := "https://gateway.example.com/"

/-- A base is clean if the last character that is kept of it is. -/
theorem baseUrl_of_getLast {hosts : String → Option String} {base : String} {last : Char}
    (hparses : (Url.parse hosts base).isSome) (hlast : (trimEndMatches base '/').toList.getLast? = some last)
    (hclean : isC0OrSpace last = false) : BaseUrl hosts base where
  parses := hparses
  clean := by
    intro x c h
    rw [h, List.getLast?_concat] at hlast
    rw [Option.some.inj hlast]
    exact hclean

theorem baseUrl_kratosBase : BaseUrl asciiHosts kratosBase :=
  baseUrl_of_getLast (by decide) (show _ = some 'm' by decide) (by decide)

theorem baseUrl_gatewayBase : BaseUrl asciiHosts gatewayBase :=
  baseUrl_of_getLast (by decide) (show _ = some 'm' by decide) (by decide)

theorem continues_kratosBase {l : List Char} :
    Continues kratosBase (kratosBase ++ String.ofList ('/' :: l)) ('/' :: l) := by
  refine ⟨?_, fun c t h => ?_⟩
  · have htrim : trimEndMatches kratosBase '/' = kratosBase := by decide
    rw [htrim, String.toList_append, String.toList_ofList]
  · obtain ⟨rfl, -⟩ := List.cons.inj h
    exact .inl rfl

/-- A page of Kratos is moved, and a login is moved to the path of the gateway. -/
theorem rewriting_keeps_to_origin_default :
    OnOriginOf asciiHosts gatewayBase (rewriteUrl (kratosBase ++ "/page") kratosBase gatewayBase) ∧
      OnOriginOf asciiHosts gatewayBase (rewriteBrowserUrl asciiHosts .default kratosBase gatewayBase
        (kratosBase ++ "/self-service/login/browser?aal=aal2")) := by
  obtain ⟨hmoved, -, hbranded, -, -⟩ := rewriting_keeps_to_origin asciiHosts .default kratosBase gatewayBase
    validate_default baseUrl_kratosBase baseUrl_gatewayBase
  refine ⟨(hmoved _ _ continues_kratosBase).2, ?_⟩
  have hurl : Url.parse asciiHosts (kratosBase ++ "/self-service/login/browser?aal=aal2") =
      some ⟨⟨"http", "kratos.example.com", none⟩, "/self-service/login/browser", some "aal=aal2", none⟩ := by
    decide
  have hroute := hbranded _ _ _ (.inl continues_kratosBase) hurl
  rwa [if_pos (by decide)] at hroute

/-- **A page of Kratos that is no route of a browser flow is left on Kratos**, where the rewriting of routes is all
that is done; and what only begins as its base is moved. -/
theorem route_left_on_kratos :
    OnOriginOf asciiHosts kratosBase (kratosBase ++ "/self-service/login/flows?id=1") ∧
      rewriteBrowserUrl asciiHosts .default kratosBase gatewayBase
        (kratosBase ++ "/self-service/login/flows?id=1") = kratosBase ++ "/self-service/login/flows?id=1" ∧
      ¬ OnOriginOf asciiHosts gatewayBase (kratosBase ++ "/self-service/login/flows?id=1") ∧
      ¬ OnOriginOf asciiHosts kratosBase (kratosBase ++ ".evil.com/x") ∧
      rewriteUrl (kratosBase ++ ".evil.com/x") kratosBase gatewayBase =
        "https://gateway.example.com.evil.com/x" := by
  refine ⟨?_, ?_, ?_, ?_, ?_⟩ <;> decide +kernel

end SsoGateway
