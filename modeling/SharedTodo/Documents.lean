import SharedTodo.Issue.Listed
import SharedTodo.Json.Record
import SharedTodo.Lists.UserLists
import SharedTodo.Preferences.Basic

/-!
# Documents

The JSON forms of identifiers, issues, lists and preferences. What is stored is written by these codecs:
without blanks, fields in the order given here, and absent values left out.
-/

namespace SharedTodo

open Json

/-! ## Identifiers and times -/

def IssueId.codec : Codec IssueId :=
  (Codec.textNamed "a formatted UUID string").refined
    (fun s => (IssueId.read s.toList).mapError .invalidId) IssueId.text

def Time.Instant.codec : Codec Time.Instant :=
  (Codec.textNamed "an RFC 3339 formatted date and time string").refined
    (fun s => (Time.Rfc3339.read s.toList).mapError .invalidInstant)
    (fun t => String.ofList (Time.Rfc3339.write t))

def UserId.codec : Codec UserId :=
  Codec.text.mapped UserId.mk UserId.text

def PostId.codec : Codec PostId :=
  Codec.text.mapped PostId.mk PostId.text

def ListKind.codec : Codec ListKind :=
  Codec.choice (all.map name) ofName? name

def TimezoneOffset.codec : Codec TimezoneOffset :=
  Codec.int32.mapped TimezoneOffset.mk TimezoneOffset.minutesWest

/-! ## Issues -/

def Issue.fields : List Field :=
  [.required "id" IssueId.codec, .required "message" Codec.text,
    .optional "description" Codec.text, .optional "post_id" PostId.codec,
    .required "create_at" Time.Instant.codec]

def Issue.codec : Codec Issue :=
  (Record.codec "struct Issue" fields).mapped
    (fun (id, message, description, post, createdAt, ()) => ⟨id, message, description, post, createdAt⟩)
    (fun issue => (issue.id, issue.message, issue.description, issue.post, issue.createdAt, ()))

def ListedIssue.fields : List Field :=
  Issue.fields ++
    [.required "position" Codec.word64, .optional "foreign_list" ListKind.codec,
      .optional "foreign_position" Codec.word64, .optional "foreign_user_id" UserId.codec,
      .optional "foreign_user_name" Codec.text]

def ListedIssue.codec : Codec ListedIssue :=
  (Record.openCodec "struct ExtendedIssue" fields).mapped
    (fun (id, message, description, post, createdAt, position, foreignList, foreignPosition,
        foreignUser, foreignName, ()) =>
      ⟨⟨id, message, description, post, createdAt⟩, position, foreignList, foreignPosition, foreignUser,
        foreignName⟩)
    (fun item =>
      (item.issue.id, item.issue.message, item.issue.description, item.issue.post,
        item.issue.createdAt, item.position, item.foreignList, item.foreignPosition,
        item.foreignUser, item.foreignName, ()))

/-! ## Lists -/

def Entry.fields : List Field :=
  [.required "issue_id" IssueId.codec, .optional "foreign_issue_id" IssueId.codec,
    .optional "foreign_user_id" UserId.codec]

def Entry.codec : Codec Entry :=
  (Record.codec "struct IssueRef" fields).mapped
    (fun (id, foreignIssue, foreignUser, ()) => ⟨id, foreignIssue, foreignUser⟩)
    (fun entry => (entry.id, entry.foreignIssue, entry.foreignUser, ()))

def UserLists.fields : List Field :=
  [.defaulting "my" Entry.codec.array [], .defaulting "in" Entry.codec.array [],
    .defaulting "out" Entry.codec.array []]

def UserLists.codec : Codec UserLists :=
  (Record.codec "struct UserLists" fields).mapped
    (fun (my, inbox, out, ()) => ⟨my, inbox, out⟩)
    (fun lists => (lists.my, lists.inbox, lists.out, ()))

/-! ## Users -/

def Preferences.fields : List Field :=
  [.defaulting "daily_summary" Codec.flag true,
    .defaulting "allow_incoming_requests" Codec.flag true,
    .optional "last_reminder_at" Time.Instant.codec]

def Preferences.codec : Codec Preferences :=
  (Record.codec "struct Preferences" fields).mapped
    (fun (dailySummary, allowIncoming, lastReminder, ()) => ⟨dailySummary, allowIncoming, lastReminder⟩)
    (fun prefs => (prefs.dailySummary, prefs.allowIncoming, prefs.lastReminder, ()))

def Profile.codec : Codec Profile :=
  (Record.codec "struct UserProfile"
    [.required "id" UserId.codec, .required "username" Codec.text]).mapped
    (fun (id, username, ()) => ⟨id, username⟩)
    (fun profile => (profile.id, profile.username, ()))

end SharedTodo
