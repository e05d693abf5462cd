import Caraka.Foundation.Fields
import Caraka.Foundation.Html

/-! What `main.js` writes into the page by `innerHTML`: toasts, notifications and the bubbles of
broadcasts, with the names and texts that other nodes send. -/

namespace Caraka

open Foundation Html

/-- A string of the script, in UTF-16. -/
def js (text : String) : Text :=
  text.toList.flatMap fun c =>
    if c.toNat < 0x10000 then [UInt16.ofNat c.toNat]
    else [UInt16.ofNat (0xD800 + (c.toNat - 0x10000) / 0x400),
      UInt16.ofNat (0xDC00 + (c.toNat - 0x10000) % 0x400)]

/-- `text.replace(/u/g, by)`. -/
def replaceAll (u : UInt16) (replacement text : Text) : Text :=
  text.flatMap fun v => if v = u then replacement else [v]

def escapeHtml (text : Text) : Text :=
  replaceAll 0x27 (js "&#39;")
    (replaceAll 0x22 (js "&quot;")
      (replaceAll 0x3E (js "&gt;")
        (replaceAll lt (js "&lt;")
          (replaceAll amp (js "&amp;") text))))

/-- `text || other`. -/
def jsOr (text other : Text) : Text := if text = [] then other else text

/-- The markup of a notification, its template literal cut at the tags. -/
def notifItem (icon text timeStr : Text) : Text :=
  List.flatten [
    js "\n    ", js "<div class=\"notif-icon\">", icon, js "</div>",
    js "\n    ", js "<div class=\"notif-body\">",
    js "\n      ", js "<div class=\"notif-text\">", text, js "</div>",
    js "\n      ", js "<div class=\"notif-time\">", timeStr, js "</div>",
    js "\n    ", js "</div>"]

def peerConnectedText (displayName : Text) : Text :=
  List.flatten [js "<strong>", displayName, js "</strong>", js " bergabung ke jaringan mesh"]

def peerDisconnectedText (displayName : Text) : Text :=
  List.flatten [js "<strong>", displayName, js "</strong>", js " terputus dari jaringan"]

def shortText (text : Text) : Text :=
  if 40 < text.length then text.take 40 ++ js "..." else text

def broadcastReceivedText (senderName text : Text) : Text :=
  List.flatten [js "<strong>", jsOr senderName (js "Anonim"), js "</strong>", js ": ",
    shortText text]

def messageReceivedText (senderName plaintext : Text) : Text :=
  List.flatten [js "<strong>", escapeHtml senderName, js "</strong>", js ": ",
    escapeHtml (shortText plaintext)]

def fileReceivedText (name filename : Text) : Text :=
  List.flatten [js "<strong>", escapeHtml name, js "</strong>", js " mengirim file: ",
    escapeHtml filename]

def toastIcon (type : String) : String :=
  if type = "success" then "✅" else if type = "error" then "❌"
  else if type = "warning" then "⚠️" else "📡"

def toastItem (type : String) (message : Text) : Text :=
  List.flatten [
    js "\n    ", js "<span class=\"toast-icon\">", js (toastIcon type), js "</span>",
    js "\n    ", js "<span class=\"toast-text\">", escapeHtml message, js "</span>",
    js "\n  "]

def avatarColors : List String :=
  ["linear-gradient(135deg, #20C9D8, #20808D)", "linear-gradient(135deg, #2D5F9E, #4A9EBF)",
    "linear-gradient(135deg, #1db87a, #20808D)", "linear-gradient(135deg, #7B5EA7, #4A9EBF)",
    "linear-gradient(135deg, #D97B2A, #e5a832)", "linear-gradient(135deg, #d94f4f, #D97B2A)",
    "linear-gradient(135deg, #20808D, #2D5F9E)", "linear-gradient(135deg, #4A9EBF, #1db87a)"]

def avatarHash (str : Text) : Int :=
  str.foldl (fun hash u => (hash * 31 + u.toNat).bmod (2 ^ 32)) 0

def getAvatarColor (str : Text) : String :=
  avatarColors.getD ((avatarHash str).natAbs % 8) ""

def avatarTag (color : String) : Text :=
  js ("<div class=\"broadcast-avatar\" style=\"background:" ++ color ++ "\">")

def hopInfo (hopCount : UInt8) : Text :=
  if 0 < hopCount then js "📡 via " ++ js (toString hopCount.toNat) ++ js " hop"
  else js "📡 langsung"

/-- The markup of a broadcast; `toUpperCase` on the first unit of the name. -/
def broadcastBubble (toUpperCase : UInt16 → Text) (senderId senderName text timeStr : Text)
    (hopCount : UInt8) : Text :=
  let avatarColor := getAvatarColor (jsOr senderId senderName)
  let initial := toUpperCase (senderName.headD 0x3F)
  List.flatten [
    js "\n    ", avatarTag avatarColor, initial, js "</div>",
    js "\n    ", js "<div class=\"broadcast-content\">",
    js "\n      ", js "<div class=\"broadcast-sender\">", escapeHtml senderName, js "</div>",
    js "\n      ", js "<div class=\"broadcast-text-bubble\">", escapeHtml text, js "</div>",
    js "\n      ", js "<div class=\"broadcast-meta\">",
    js "\n        ", js "<span>", timeStr, js "</span>",
    js "\n        ", js "<span class=\"hop-badge\">", hopInfo hopCount, js "</span>",
    js "\n      ", js "</div>", js "\n    ", js "</div>", js "\n  "]

theorem js_append (front back : String) : js (front ++ back) = js front ++ js back := by
  rw [js, String.toList_append, List.flatMap_append]
  rfl

theorem avatarTag_eq (color : String) :
    avatarTag color =
      js "<div class=\"broadcast-avatar\" style=\"background:" ++ js color ++ js "\">" := by
  rw [avatarTag, js_append, js_append]

def pageTags : List String :=
  ["<div class=\"notif-icon\">", "<div class=\"notif-body\">", "<div class=\"notif-text\">",
    "<div class=\"notif-time\">", "</div>", "<strong>", "</strong>",
    "<span class=\"toast-icon\">", "<span class=\"toast-text\">", "</span>", "<span>",
    "<span class=\"hop-badge\">", "<div class=\"broadcast-content\">",
    "<div class=\"broadcast-sender\">", "<div class=\"broadcast-text-bubble\">",
    "<div class=\"broadcast-meta\">"]

/-- A browser reads the tags of the page as tags. -/
structure ReadsPage {σ : Type} (browser : Browser σ) : Prop where
  fixed : ∀ tag ∈ pageTags, browser.Reads (js tag)
  avatar : ∀ color ∈ avatarColors, browser.Reads (avatarTag color)

theorem escapeHtml_append (front back : Text) :
    escapeHtml (front ++ back) = escapeHtml front ++ escapeHtml back := by
  simp only [escapeHtml, replaceAll, List.flatMap_append]

theorem escapeHtml_unit (u : UInt16) : escapeHtml [u] = escapeUnit u := by
  rw [escapeUnit]
  split_ifs with isAmp isLt isGt isQuot isApos
  · rw [isAmp]
    rfl
  · rw [isLt]
    rfl
  · rw [isGt]
    rfl
  · rw [isQuot]
    rfl
  · rw [isApos]
    rfl
  · simp only [escapeHtml, replaceAll, List.flatMap_singleton, isAmp, isLt, isGt, isQuot, isApos,
      if_false]

theorem escapeHtml_eq (text : Text) : escapeHtml text = escape text := by
  induction text with
  | nil => rfl
  | cons u text ih =>
      calc
        escapeHtml (u :: text) = escapeHtml [u] ++ escapeHtml text := escapeHtml_append [u] text
        _ = escapeUnit u ++ escape text := by rw [escapeHtml_unit, ih]
        _ = escape (u :: text) := List.flatMap_cons.symm

theorem getAvatarColor_mem (str : Text) : getAvatarColor str ∈ avatarColors := by
  have bound : (avatarHash str).natAbs % 8 < avatarColors.length := Nat.mod_lt _ (by decide)
  rw [getAvatarColor, List.getD_eq_getElem?_getD, List.getElem?_eq_getElem bound]
  exact List.getElem_mem bound

/-- A notification by its parts. -/
def notifParts (icon : Text) (text : List Part) (timeStr : Text) : List Part :=
  [.fixed (js "\n    "), .tag (js "<div class=\"notif-icon\">"), .fixed icon, .tag (js "</div>"),
    .fixed (js "\n    "), .tag (js "<div class=\"notif-body\">"), .fixed (js "\n      "),
    .tag (js "<div class=\"notif-text\">")] ++
  (text ++ [.tag (js "</div>"), .fixed (js "\n      "), .tag (js "<div class=\"notif-time\">"),
    .fixed timeStr, .tag (js "</div>"), .fixed (js "\n    "), .tag (js "</div>")])

theorem notifItem_parts (icon : Text) (text : List Part) (timeStr : Text) :
    notifItem icon (text.flatMap Part.source) timeStr =
      (notifParts icon text timeStr).flatMap Part.source := by
  rw [notifParts, List.flatMap_append, List.flatMap_append]
  simp only [notifItem, List.flatMap_cons, List.flatMap_nil, List.flatten_cons, List.flatten_nil,
    Part.source, List.append_assoc, List.append_nil]

def boldParts (name : Part) (rest : List Part) : List Part :=
  .tag (js "<strong>") :: name :: .tag (js "</strong>") :: rest

section Shown

variable {σ : Type} {browser : Browser σ}

theorem sound_notif (page : ReadsPage browser) {icon timeStr : Text} (time : Harmless timeStr)
    (plain : Harmless icon) {text : List Part} (sound : ∀ part ∈ text, part.Sound browser) :
    ∀ part ∈ notifParts icon text timeStr, part.Sound browser := by
  have spaces : Harmless (js "\n    ") ∧ Harmless (js "\n      ") := by decide
  have tags := page.fixed
  simp only [pageTags, List.forall_mem_cons] at tags
  simp only [notifParts, List.forall_mem_append, List.forall_mem_cons, Part.Sound, tags, spaces,
    plain, time, true_and, List.not_mem_nil, false_implies, implies_true, and_true]
  exact sound

theorem sound_bold {name : Part} {rest : List Part} (page : ReadsPage browser)
    (sound : name.Sound browser) (later : ∀ part ∈ rest, part.Sound browser) :
    ∀ part ∈ boldParts name rest, part.Sound browser := by
  rw [boldParts, List.forall_mem_cons, List.forall_mem_cons, List.forall_mem_cons]
  exact ⟨page.fixed _ (by simp [pageTags]), sound, page.fixed _ (by simp [pageTags]), later⟩

/-- The parts of the notification of a file. -/
def fileParts (name filename : Text) : List Part :=
  boldParts (.escaped name) [.fixed (js " mengirim file: "), .escaped filename]

def messageParts (senderName plaintext : Text) : List Part :=
  boldParts (.escaped senderName) [.fixed (js ": "), .escaped (shortText plaintext)]

def peerConnectedParts (displayName : Text) : List Part :=
  boldParts (.raw displayName) [.fixed (js " bergabung ke jaringan mesh")]

def peerDisconnectedParts (displayName : Text) : List Part :=
  boldParts (.raw displayName) [.fixed (js " terputus dari jaringan")]

def broadcastReceivedParts (senderName text : Text) : List Part :=
  boldParts (.raw (jsOr senderName (js "Anonim"))) [.fixed (js ": "), .raw (shortText text)]

def toastParts (type : String) (message : Text) : List Part :=
  [.fixed (js "\n    "), .tag (js "<span class=\"toast-icon\">"), .fixed (js (toastIcon type)),
    .tag (js "</span>"), .fixed (js "\n    "), .tag (js "<span class=\"toast-text\">"),
    .escaped message, .tag (js "</span>"), .fixed (js "\n  ")]

def bubbleParts (color : String) (initial senderName text timeStr : Text) (hopCount : UInt8) :
    List Part :=
  [.fixed (js "\n    "), .tag (avatarTag color), .raw initial, .tag (js "</div>"),
    .fixed (js "\n    "), .tag (js "<div class=\"broadcast-content\">"),
    .fixed (js "\n      "), .tag (js "<div class=\"broadcast-sender\">"), .escaped senderName,
    .tag (js "</div>"), .fixed (js "\n      "),
    .tag (js "<div class=\"broadcast-text-bubble\">"), .escaped text, .tag (js "</div>"),
    .fixed (js "\n      "), .tag (js "<div class=\"broadcast-meta\">"),
    .fixed (js "\n        "), .tag (js "<span>"), .fixed timeStr, .tag (js "</span>"),
    .fixed (js "\n        "), .tag (js "<span class=\"hop-badge\">"), .fixed (hopInfo hopCount),
    .tag (js "</span>"), .fixed (js "\n      "), .tag (js "</div>"), .fixed (js "\n    "),
    .tag (js "</div>"), .fixed (js "\n  ")]

theorem harmless_toastIcon (type : String) : Harmless (js (toastIcon type)) := by
  rw [toastIcon]
  split_ifs <;> decide

theorem harmless_append {front back : Text} (first : Harmless front) (last : Harmless back) :
    Harmless (front ++ back) := by
  refine ⟨?_, ?_, fun u member => ?_⟩
  · exact fun member => (List.mem_append.mp member).elim first.1 last.1
  · exact fun member => (List.mem_append.mp member).elim first.2.1 last.2.1
  · exact (List.mem_append.mp member).elim (first.2.2 u) (last.2.2 u)

theorem harmless_decimal (value : Nat) : Harmless (js (toString value)) := by
  have digit : ∀ u ∈ js (toString value), 48 ≤ u.toNat ∧ u.toNat ≤ 57 := by
    intro u member
    rcases List.mem_flatMap.mp member with ⟨c, present, unit⟩
    have bounds := isDigit_decimal c present
    simp only [Char.isDigit, Bool.and_eq_true, decide_eq_true_eq] at bounds
    have low : 48 ≤ c.toNat := bounds.1
    have high : c.toNat ≤ 57 := bounds.2
    rw [if_pos (by omega), List.mem_singleton] at unit
    rw [unit, UInt16.toNat_ofNat', Nat.mod_eq_of_lt (by omega)]
    exact ⟨low, high⟩
  refine ⟨fun member => ?_, fun member => ?_, fun u member => ⟨?_, ?_⟩⟩
  · exact absurd (digit _ member).2 (by decide)
  · exact absurd (digit _ member).1 (by decide)
  · rintro rfl
    exact absurd (digit _ member).1 (by decide)
  · rintro rfl
    exact absurd (digit _ member).1 (by decide)

theorem harmless_hopInfo (hopCount : UInt8) : Harmless (hopInfo hopCount) := by
  rw [hopInfo]
  split_ifs
  · exact harmless_append (harmless_append (by decide) (harmless_decimal _)) (by decide)
  · decide

theorem sound_toast (page : ReadsPage browser) (type : String) {message : Text}
    (printable : Printable message) :
    ∀ part ∈ toastParts type message, part.Sound browser := by
  have spaces : Harmless (js "\n    ") ∧ Harmless (js "\n  ") := by decide
  have icon := harmless_toastIcon type
  have tags := page.fixed
  simp only [pageTags, List.forall_mem_cons] at tags
  simp only [toastParts, List.forall_mem_cons, Part.Sound, tags, spaces, icon, printable, true_and,
    List.not_mem_nil, false_implies, implies_true]

theorem sound_bubble (page : ReadsPage browser) {color : String} (listed : color ∈ avatarColors)
    (initial : Text) {senderName text timeStr : Text} (name : Printable senderName)
    (printable : Printable text) (time : Harmless timeStr) (hopCount : UInt8) :
    ∀ part ∈ bubbleParts color initial senderName text timeStr hopCount,
      part.Sound browser := by
  have spaces : Harmless (js "\n    ") ∧ Harmless (js "\n      ") ∧ Harmless (js "\n        ") ∧
      Harmless (js "\n  ") := by decide
  have hops := harmless_hopInfo hopCount
  have avatar := page.avatar color listed
  have tags := page.fixed
  simp only [pageTags, List.forall_mem_cons] at tags
  simp only [bubbleParts, List.forall_mem_cons, Part.Sound, tags, spaces, avatar, name, printable,
    time, hops, true_and, List.not_mem_nil, false_implies, implies_true]

theorem toastItem_parts (type : String) (message : Text) :
    toastItem type message = (toastParts type message).flatMap Part.source := by
  rw [toastItem, escapeHtml_eq]
  rfl

theorem fileReceived_parts (name filename : Text) :
    fileReceivedText name filename = (fileParts name filename).flatMap Part.source := by
  rw [fileReceivedText, escapeHtml_eq, escapeHtml_eq]
  rfl

theorem messageReceived_parts (senderName plaintext : Text) :
    messageReceivedText senderName plaintext =
      (messageParts senderName plaintext).flatMap Part.source := by
  rw [messageReceivedText, escapeHtml_eq, escapeHtml_eq]
  rfl

theorem printable_shortText {text : Text} (printable : Printable text) :
    Printable (shortText text) := by
  rw [shortText]
  split_ifs
  · intro u member
    rcases List.mem_append.mp member with kept | dots
    · exact printable u (List.mem_of_mem_take kept)
    · have fixed : Printable (js "...") := by decide
      exact fixed u dots
  · exact printable

theorem broadcastBubble_parts (toUpperCase : UInt16 → Text)
    (senderId senderName text timeStr : Text) (hopCount : UInt8) :
    broadcastBubble toUpperCase senderId senderName text timeStr hopCount =
      (bubbleParts (getAvatarColor (jsOr senderId senderName)) (toUpperCase (senderName.headD 0x3F))
        senderName text timeStr hopCount).flatMap Part.source := by
  rw [broadcastBubble, escapeHtml_eq, escapeHtml_eq]
  rfl

/-- Changing the case of a unit makes or changes none that a browser treats in its own way. -/
def PlainCase (toUpperCase : UInt16 → Text) : Prop :=
  (∀ u ∈ [amp, lt], toUpperCase u = [u]) ∧
    ∀ u, u ∉ [amp, lt, 0, 13] → Harmless (toUpperCase u)

theorem inert_initial (standard : browser.Standard) {toUpperCase : UInt16 → Text}
    (cased : PlainCase toUpperCase) {name : Text} (printable : Printable name) :
    (Part.raw (toUpperCase (name.headD 0x3F))).Inert browser := by
  by_cases special : name.headD 0x3F ∈ [amp, lt]
  · rw [cased.1 _ special]
    refine ⟨trivial, ?_⟩
    rcases List.mem_cons.mp special with isAmp | isLt
    · rw [isAmp, standard.decode_amp]
    · rw [List.mem_singleton.mp isLt, standard.decode_unit lt [] (by decide) (by decide)
        (by decide), standard.decode_nil]
  · apply inert_of_harmless standard (cased.2 _ _)
    cases name with
    | nil => decide
    | cons u name =>
        have own := printable u List.mem_cons_self
        simp only [List.headD_cons, List.mem_cons, List.not_mem_nil, or_false, not_or] at special ⊢
        exact ⟨special.1, special.2, own⟩

theorem notif_shown_iff (standard : browser.Standard) (page : ReadsPage browser)
    {icon timeStr : Text} (time : Harmless timeStr) (plain : Harmless icon) {text : List Part}
    (sound : ∀ part ∈ text, part.Sound browser)
    (guarded : Guarded (notifParts icon text timeStr)) :
    browser.document (notifItem icon (text.flatMap Part.source) timeStr) =
        meantBy (notifParts icon text timeStr) ↔ ∀ part ∈ text, part.Inert browser := by
  rw [notifItem_parts, document_parts_iff standard (sound_notif page time plain sound) guarded]
  simp only [notifParts, List.forall_mem_append, List.forall_mem_cons, Part.Inert, true_and,
    List.not_mem_nil, false_implies, implies_true, and_true]

theorem bold_escaped_shown (standard : browser.Standard) (page : ReadsPage browser)
    {icon between timeStr : Text} (time : Harmless timeStr) (plain : Harmless icon)
    (fixed : Harmless between) {name text : Text} (printable : Printable name)
    (printable' : Printable text) :
    browser.document (notifItem icon ((boldParts (.escaped name)
        [.fixed between, .escaped text]).flatMap Part.source) timeStr) =
      meantBy (notifParts icon (boldParts (.escaped name) [.fixed between, .escaped text])
        timeStr) := by
  have later : ∀ part ∈ [Part.fixed between, .escaped text], part.Sound browser := by
    simp only [List.forall_mem_cons, Part.Sound, fixed, printable', List.not_mem_nil,
      false_implies, implies_true, and_true]
  have sound := @sound_bold _ browser (.escaped name) _ page printable later
  rw [notif_shown_iff standard page time plain sound trivial]
  simp only [boldParts, List.forall_mem_cons, Part.Inert, true_and, List.not_mem_nil,
    false_implies, implies_true]

theorem bold_raw_shown_iff (standard : browser.Standard) (page : ReadsPage browser)
    {icon timeStr : Text} (time : Harmless timeStr) (plain : Harmless icon) (name : Text)
    {rest : List Part} (later : ∀ part ∈ rest, part.Sound browser)
    (guarded : Guarded (notifParts icon (boldParts (.raw name) rest) timeStr)) :
    browser.document (notifItem icon ((boldParts (.raw name) rest).flatMap Part.source) timeStr) =
        meantBy (notifParts icon (boldParts (.raw name) rest) timeStr) ↔
      (browser.Plain name ∧ browser.decode name = name) ∧ ∀ part ∈ rest, part.Inert browser := by
  have sound := @sound_bold _ browser (.raw name) rest page trivial later
  rw [notif_shown_iff standard page time plain sound guarded]
  simp only [boldParts, List.forall_mem_cons, Part.Inert, true_and]

end Shown

namespace Sample

def startsMarkup (u : UInt16) : Option Unit :=
  if 0x41 ≤ u ∧ u ≤ 0x5A ∨ 0x61 ≤ u ∧ u ≤ 0x7A ∨ u = 0x2F ∨ u = 0x21 ∨ u = 0x3F then some ()
  else none

def specials : List UInt16 := [amp, lt, 0x3E, 0x22, 0x27]

def referenceAt (text : Text) : Option UInt16 :=
  specials.find? fun u => (escapeUnit u).isPrefixOf text

def decodeAfter : Nat → Text → Text
  | _, [] => []
  | left + 1, _ :: rest => decodeAfter left rest
  | 0, u :: rest =>
    match referenceAt (u :: rest) with
    | some v => v :: decodeAfter ((escapeUnit v).length - 1) rest
    | none => u :: decodeAfter 0 rest

def pageBrowser : Browser Unit where
  starts := startsMarkup
  feed _ u := if u = 0x3E then none else some ()
  decode := decodeAfter 0

theorem length_decodeAfter (left : Nat) (text : Text) :
    (decodeAfter left text).length ≤ text.length := by
  induction text generalizing left with
  | nil => cases left <;> exact Nat.le_refl 0
  | cons u rest ih =>
      cases left with
      | succ left => exact Nat.le_succ_of_le (ih left)
      | zero =>
          rw [decodeAfter]
          split
          · exact Nat.succ_le_succ (ih _)
          · exact Nat.succ_le_succ (ih _)

theorem referenceAt_none {u : UInt16} (plain : u ≠ amp) (rest : Text) :
    referenceAt (u :: rest) = none := by
  have differs : (amp == u) = false := beq_false_of_ne (Ne.symm plain)
  rw [referenceAt, List.find?_eq_none]
  intro v listed
  simp only [specials, List.mem_cons, List.not_mem_nil, or_false] at listed
  rcases listed with rfl | rfl | rfl | rfl | rfl
  all_goals
    rw [Bool.not_eq_true]
    exact congrArg (· && _) differs

theorem pageBrowser_standard : pageBrowser.Standard where
  starts_lt := by decide
  decode_nil := rfl
  decode_amp := by decide
  decode_unit u rest plain _ _ := by
    change decodeAfter 0 (u :: rest) = _
    rw [decodeAfter, referenceAt_none plain]
    rfl
  decode_reference u listed rest := by
    simp only [List.mem_cons, List.not_mem_nil, or_false] at listed
    rcases listed with rfl | rfl | rfl | rfl | rfl
    all_goals rfl
  length_decode := length_decodeAfter 0

def closes : Text → Bool
  | [] => false
  | u :: rest => if u = 0x3E then rest.isEmpty else closes rest

def isTag : Text → Bool
  | u :: v :: rest => decide (u = lt) && (startsMarkup v).isSome && closes rest
  | _ => false

theorem tokens_closes {rest : Text} (closed : closes rest = true) (source behind : Text) :
    tokens pageBrowser (.markup () source) (rest ++ behind) =
      .markup (source ++ rest) :: tokens pageBrowser .data behind := by
  induction rest generalizing source with
  | nil => cases closed
  | cons u rest ih =>
      rw [closes] at closed
      rw [List.cons_append, tokens]
      by_cases last : u = 0x3E
      · rw [if_pos last, List.isEmpty_iff] at closed
        rw [show pageBrowser.feed () u = none from if_pos last, closed]
        rfl
      · rw [if_neg last] at closed
        rw [show pageBrowser.feed () u = some () from if_neg last]
        change tokens pageBrowser (.markup () (source ++ [u])) (rest ++ behind) = _
        rw [ih closed, List.append_assoc]
        rfl

theorem reads_isTag {tag : Text} (shape : isTag tag = true) : pageBrowser.Reads tag := by
  intro behind
  match tag, shape with
  | u :: v :: rest, shape =>
    simp only [isTag, Bool.and_eq_true, decide_eq_true_eq] at shape
    rcases shape with ⟨⟨rfl, begins⟩, closed⟩
    rcases Option.isSome_iff_exists.mp begins with ⟨state, started⟩
    rw [List.cons_append, tokens_lt, List.cons_append, tokens,
      show pageBrowser.starts v = some state from started]
    exact tokens_closes closed [lt, v] behind

theorem pageBrowser_readsPage : ReadsPage pageBrowser where
  fixed := by
    have shapes : (pageTags.all fun tag => isTag (js tag)) = true := by decide
    exact fun tag listed => reads_isTag (List.all_eq_true.mp shapes tag listed)
  avatar := by
    -- The appended string is taken apart first: the kernel is slow to evaluate it.
    have shapes : (avatarColors.all fun color => isTag
        (js "<div class=\"broadcast-avatar\" style=\"background:" ++ js color ++ js "\">")) =
          true := by
      decide
    intro color listed
    rw [avatarTag_eq]
    exact reads_isTag (List.all_eq_true.mp shapes color listed)

/-- `toUpperCase` of the letters without accents. -/
def upperCase (u : UInt16) : Text := if 0x61 ≤ u ∧ u ≤ 0x7A then [u - 0x20] else [u]

theorem upperCase_plain : PlainCase upperCase := by
  refine ⟨List.forall_mem_cons.mpr ⟨by decide, List.forall_mem_singleton.mpr (by decide)⟩,
    fun u usual => ?_⟩
  simp only [List.mem_cons, List.not_mem_nil, or_false, not_or] at usual
  rcases usual with ⟨notAmp, notLt, notNul, notReturn⟩
  rw [upperCase]
  split_ifs with lower
  · have bounds : 0x61 ≤ u.toNat ∧ u.toNat ≤ 0x7A := lower
    have moved : (u - 0x20).toNat = u.toNat - 0x20 :=
      UInt16.toNat_sub_of_le _ _ (show (0x20 : UInt16).toNat ≤ u.toNat by
        exact Nat.le_trans (by decide) bounds.1)
    have other {v : UInt16} (small : v.toNat < 0x41) : u - 0x20 ≠ v := by
      rintro rfl
      omega
    refine ⟨?_, ?_, List.forall_mem_singleton.mpr ⟨?_, ?_⟩⟩
    · exact fun member => other (by decide) (List.mem_singleton.mp member).symm
    · exact fun member => other (by decide) (List.mem_singleton.mp member).symm
    · exact other (by decide)
    · exact other (by decide)
  · refine ⟨?_, ?_, List.forall_mem_singleton.mpr ⟨notNul, notReturn⟩⟩
    · exact fun member => notLt (List.mem_singleton.mp member).symm
    · exact fun member => notAmp (List.mem_singleton.mp member).symm

end Sample

section Received

variable {σ : Type} {browser : Browser σ}

/-- What other nodes send is shown as text in toasts, in the notifications of messages and files
and in the bubbles of broadcasts, whatever it is. -/
theorem received_shown (standard : browser.Standard) (page : ReadsPage browser)
    {toUpperCase : UInt16 → Text} (cased : PlainCase toUpperCase) {timeStr : Text}
    (time : Harmless timeStr) {name text : Text} (printable : Printable name)
    (printable' : Printable text) :
    (∀ type, browser.document (toastItem type text) = meantBy (toastParts type text)) ∧
      browser.document (notifItem (js "💬") (messageReceivedText name text) timeStr) =
        meantBy (notifParts (js "💬") (messageParts name text) timeStr) ∧
      browser.document (notifItem (js "📎") (fileReceivedText name text) timeStr) =
        meantBy (notifParts (js "📎") (fileParts name text) timeStr) ∧
      ∀ senderId hopCount,
        browser.document (broadcastBubble toUpperCase senderId name text timeStr hopCount) =
          meantBy (bubbleParts (getAvatarColor (jsOr senderId name))
            (toUpperCase (name.headD 0x3F)) name text timeStr hopCount) := by
  refine ⟨fun type => ?_, ?_, ?_, fun senderId hopCount => ?_⟩
  · rw [toastItem_parts,
      document_parts_iff standard (sound_toast page type printable') trivial]
    simp only [toastParts, List.forall_mem_cons, Part.Inert, true_and, List.not_mem_nil,
      false_implies, implies_true]
  · rw [messageReceived_parts]
    exact bold_escaped_shown standard page time (by decide) (by decide) printable
      (printable_shortText printable')
  · rw [fileReceived_parts]
    exact bold_escaped_shown standard page time (by decide) (by decide) printable printable'
  · have initial := inert_initial standard cased printable
    have sound := sound_bubble page (getAvatarColor_mem (jsOr senderId name))
      (toUpperCase (name.headD 0x3F)) printable printable' time hopCount
    rw [broadcastBubble_parts, document_parts_iff standard sound ⟨⟨_, _, rfl⟩, trivial⟩]
    simp only [bubbleParts, List.forall_mem_cons, Part.Inert, true_and, List.not_mem_nil,
      false_implies, implies_true, and_true]
    exact initial

/-- A name and a file name that look like tags. -/
theorem Sample.received_shown_tags :
    Sample.pageBrowser.document (toastItem "success" (js "<b>a & b</b>")) =
      [.text (js "\n    "), .markup (js "<span class=\"toast-icon\">"), .text (js "✅"),
        .markup (js "</span>"), .text (js "\n    "), .markup (js "<span class=\"toast-text\">"),
        .text (js "<b>a & b</b>"), .markup (js "</span>"), .text (js "\n  ")] := by
  have printable : Printable (js "<b>Budi") ∧ Printable (js "<b>a & b</b>") := by decide
  have time : Harmless (js "14.05") := by decide
  have shown := received_shown Sample.pageBrowser_standard Sample.pageBrowser_readsPage
    Sample.upperCase_plain time printable.1 printable.2
  rw [shown.1 "success"]
  decide

/-- A name that is announced without escaping, and a broadcast in the feed, are shown as they are
just if the browser makes nothing else of them. -/
theorem announced_shown_iff (standard : browser.Standard) (page : ReadsPage browser)
    {timeStr : Text} (time : Harmless timeStr) (name text : Text) :
    (browser.document (notifItem (js "🟢") (peerConnectedText name) timeStr) =
        meantBy (notifParts (js "🟢") (peerConnectedParts name) timeStr) ↔
      browser.Plain name ∧ browser.decode name = name) ∧
    (browser.document (notifItem (js "🔴") (peerDisconnectedText name) timeStr) =
        meantBy (notifParts (js "🔴") (peerDisconnectedParts name) timeStr) ↔
      browser.Plain name ∧ browser.decode name = name) ∧
    (browser.document (notifItem (js "📢") (broadcastReceivedText name text) timeStr) =
        meantBy (notifParts (js "📢") (broadcastReceivedParts name text) timeStr) ↔
      (browser.Plain (jsOr name (js "Anonim")) ∧
        browser.decode (jsOr name (js "Anonim")) = jsOr name (js "Anonim")) ∧
      browser.Plain (shortText text) ∧ browser.decode (shortText text) = shortText text) := by
  have fixed {between : Text} (harmless : Harmless between) :
      ∀ part ∈ [Part.fixed between], part.Sound browser :=
    List.forall_mem_singleton.mpr harmless
  have inert (between : Text) : ∀ part ∈ [Part.fixed between], part.Inert browser :=
    List.forall_mem_singleton.mpr trivial
  refine ⟨?_, ?_, ?_⟩
  · have parts : peerConnectedText name = (peerConnectedParts name).flatMap Part.source := rfl
    have sound := fixed (show Harmless (js " bergabung ke jaringan mesh") by decide)
    have shown := bold_raw_shown_iff standard page time (show Harmless (js "🟢") by decide) name
      sound ⟨⟨_, _, rfl⟩, trivial⟩
    rw [parts, peerConnectedParts, shown, and_iff_left (inert _)]
  · have parts : peerDisconnectedText name = (peerDisconnectedParts name).flatMap Part.source :=
      rfl
    have sound := fixed (show Harmless (js " terputus dari jaringan") by decide)
    have shown := bold_raw_shown_iff standard page time (show Harmless (js "🔴") by decide) name
      sound ⟨⟨_, _, rfl⟩, trivial⟩
    rw [parts, peerDisconnectedParts, shown, and_iff_left (inert _)]
  · have parts : broadcastReceivedText name text =
        (broadcastReceivedParts name text).flatMap Part.source := rfl
    have sound : ∀ part ∈ [Part.fixed (js ": "), .raw (shortText text)], part.Sound browser :=
      List.forall_mem_cons.mpr
        ⟨show Harmless (js ": ") by decide, List.forall_mem_singleton.mpr trivial⟩
    have shown := bold_raw_shown_iff standard page time (show Harmless (js "📢") by decide)
      (jsOr name (js "Anonim")) sound ⟨⟨_, _, rfl⟩, ⟨_, _, rfl⟩, trivial⟩
    rw [parts, broadcastReceivedParts, shown, List.forall_mem_cons, List.forall_mem_singleton]
    exact and_congr_right fun _ => and_iff_right trivial

/-- A broadcast that holds a tag is not shown as it was sent; a plain name is. -/
theorem Sample.announced_tag :
    Sample.pageBrowser.document (notifItem (js "🟢") (peerConnectedText (js "Budi")) (js "14.05")) =
        meantBy (notifParts (js "🟢") (peerConnectedParts (js "Budi")) (js "14.05")) ∧
      Sample.pageBrowser.document
          (notifItem (js "📢") (broadcastReceivedText (js "Budi") (js "<b>Halo")) (js "14.05")) ≠
        meantBy (notifParts (js "📢") (broadcastReceivedParts (js "Budi") (js "<b>Halo"))
          (js "14.05")) := by
  have time : Harmless (js "14.05") := by decide
  have shown := announced_shown_iff Sample.pageBrowser_standard Sample.pageBrowser_readsPage time
    (js "Budi")
  refine ⟨(shown []).1.mpr ⟨?_, by decide⟩, fun same => ?_⟩
  · exact plain_of_notMem (by decide)
  · have plain := ((shown (js "<b>Halo")).2.2.mp same).2.1
    exact absurd (plain.1 rfl) (by decide)

end Received

end Caraka
