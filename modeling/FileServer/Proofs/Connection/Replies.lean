import FileServer.Content
import FileServer.Hub
import FileServer.Intake.Scanner

/-!
# What a connection owes for its input

The input of a connection is cut into lines by its line feeds, and `Replies` says which responses
the lines are owed, in their order and without gaps.

* A line that names a resource is owed a content that was published under the key of the resource:
  the file, or the page of the failure. Unless connections are kept, nothing follows.
* A line that names none is refused, and nothing follows.
* Input that does not come to a line feed within the limit is refused, and nothing follows.

Nothing is said about a line that has no response yet, so that a list of replies is one for some
front part of the input. `Handled` is the part of it that ends with a line, after which the
connection goes on.
-/

namespace FileServer

variable {settings : Settings} {published : List (String × Content)} {input rest more line : Bytes}
  {response : Http.Response} {responses : List Http.Response}

/-- The response is owed to a line that names a resource, of which this much is published. -/
def Answers (settings : Settings) (published : List (String × Content)) (line : Bytes)
    (response : Http.Response) : Prop :=
  Scanner.lineFeed ∉ line ∧ line.length ≤ Scanner.limit ∧
    ∃ key content, Key.resolve settings.root (Text.decode line) = .ok key ∧
      (key, content) ∈ published ∧ response = content.response key settings.keepAlive

/-- The responses are those to the first lines of some input. -/
inductive Replies (settings : Settings) (published : List (String × Content)) :
    Bytes → List Http.Response → Prop where
  /-- No line has a response. -/
  | none (input : Bytes) : Replies settings published input []
  /-- The first line names a resource. -/
  | served {line rest : Bytes} {response : Http.Response} {responses : List Http.Response}
      (hline : Answers settings published line response)
      (hlast : settings.keepAlive = false → responses = [])
      (hrest : Replies settings published rest responses) :
      Replies settings published (line ++ Scanner.lineFeed :: rest) (response :: responses)
  /-- The first line names no resource. -/
  | refused {line : Bytes} {cause : KeyError} (rest : Bytes) (hline : Scanner.lineFeed ∉ line)
      (hlimit : line.length ≤ Scanner.limit)
      (hkey : Key.resolve settings.root (Text.decode line) = .error cause) :
      Replies settings published (line ++ Scanner.lineFeed :: rest) [.error 400 false]
  /-- The first line is too long, whether it ends or not. -/
  | overlong {input : Bytes} (hlimit : Scanner.limit < input.length)
      (hline : Scanner.lineFeed ∉ input.take (Scanner.limit + 1)) :
      Replies settings published input [.error 414 false]

/-- The input is a number of whole lines, and the responses are all that is owed to them. -/
inductive Handled (settings : Settings) (published : List (String × Content)) :
    Bytes → List Http.Response → Prop where
  /-- No line at all. -/
  | none : Handled settings published [] []
  /-- The first line names a resource, and the connection is kept. -/
  | served {line rest : Bytes} {response : Http.Response} {responses : List Http.Response}
      (hline : Answers settings published line response) (hkeep : settings.keepAlive = true)
      (hrest : Handled settings published rest responses) :
      Handled settings published (line ++ Scanner.lineFeed :: rest) (response :: responses)

/-- The bytes of some responses, one behind the other. -/
def written (responses : List Http.Response) : Bytes := responses.flatMap Http.Response.bytes

/-- Responses are written one after the other. -/
@[simp] theorem written_append (first second : List Http.Response) :
    written (first ++ second) = written first ++ written second :=
  List.flatMap_append

/-- One response is written as its bytes. -/
@[simp] theorem written_singleton (response : Http.Response) :
    written [response] = response.bytes := by
  simp [written]

/-! ### More becomes known -/

/-- What was published stays so. -/
theorem Answers.publish (h : Answers settings published line response)
    (others : List (String × Content)) : Answers settings (published ++ others) line response := by
  obtain ⟨hline, hlimit, key, content, hkey, hmem, hresponse⟩ := h
  exact ⟨hline, hlimit, key, content, hkey, List.mem_append_left _ hmem, hresponse⟩

/-- What has replied to an input still does when more is published. -/
theorem Replies.publish (h : Replies settings published input responses)
    (others : List (String × Content)) :
    Replies settings (published ++ others) input responses := by
  induction h with
  | none input => exact .none input
  | served hline hlast _ ih => exact .served (hline.publish others) hlast ih
  | refused rest hline hlimit hkey => exact .refused rest hline hlimit hkey
  | overlong hlimit hline => exact .overlong hlimit hline

/-- What was handled still is when more is published. -/
theorem Handled.publish (h : Handled settings published input responses)
    (others : List (String × Content)) :
    Handled settings (published ++ others) input responses := by
  induction h with
  | none => exact .none
  | served hline hkeep _ ih => exact .served (hline.publish others) hkeep ih

/-- Input that arrives later changes nothing for the lines before it. -/
theorem Replies.arrive (h : Replies settings published input responses) (more : Bytes) :
    Replies settings published (input ++ more) responses := by
  induction h with
  | none input => exact .none _
  | served hline hlast _ ih =>
      rw [List.append_assoc, List.cons_append]
      exact .served hline hlast ih
  | refused rest hline hlimit hkey =>
      rw [List.append_assoc, List.cons_append]
      exact .refused _ hline hlimit hkey
  | overlong hlimit hline =>
      refine .overlong ?_ ?_
      · rw [List.length_append]
        omega
      · rwa [List.take_append_of_le_length hlimit]

/-! ### Lines behind lines -/

/-- What is owed to the lines that follow is owed behind what the first ones were. -/
theorem Handled.replies (h : Handled settings published input responses)
    {others : List Http.Response} (hothers : Replies settings published rest others) :
    Replies settings published (input ++ rest) (responses ++ others) := by
  induction h with
  | none => exact hothers
  | served hline hkeep _ ih =>
      rw [List.append_assoc, List.cons_append]
      refine .served hline (fun hlast => ?_) ih
      rw [hkeep] at hlast
      cases hlast

/-- What follows may be owed nothing yet. -/
theorem Handled.replies_self (h : Handled settings published input responses) (rest : Bytes) :
    Replies settings published (input ++ rest) responses := by
  have hall := h.replies (.none rest)
  rwa [List.append_nil] at hall

/-- One more line. -/
theorem Handled.concat (h : Handled settings published input responses)
    (hline : Answers settings published line response) (hkeep : settings.keepAlive = true) :
    Handled settings published (input ++ (line ++ [Scanner.lineFeed]))
      (responses ++ [response]) := by
  induction h with
  | none => exact .served hline hkeep .none
  | served hfirst _ _ ih =>
      rw [List.append_assoc, List.cons_append]
      exact .served hfirst hkeep ih

/-- A line that names a resource is owed its content behind what the lines before it were. -/
theorem Handled.replies_line (h : Handled settings published input responses)
    (hline : Answers settings published line response) (rest : Bytes) :
    Replies settings published (input ++ (line ++ Scanner.lineFeed :: rest))
      (responses ++ [response]) :=
  h.replies (.served hline (fun _ => rfl) (.none rest))

end FileServer
