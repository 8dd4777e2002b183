import VcfValidator.BodyGrammar

/-!
# The body states as named classes

Every state of the body line outside the trie of the `INFO` keys, read as a list of named byte
classes and the states they lead to: the body automaton at the level of the grammar's classes.
`rows_bodyClasses` checks the whole list against the transcribed table in one pass, each row by
`Row.walksAs`, and `label_classes` reads a label off it. The trie and its root, state 416 and the
states of reserved keys before their `=`, are read by `VcfValidator.InfoKeys`.
-/

namespace VcfValidator

open Scanner

set_option autoImplicit false

/-- The body states and their classes. The tab and the newline come last, where a state ends its
column or the line. -/
def bodyClasses : List (Nat × List (List (Nat × Nat) × Nat)) :=
  [(400, [(chromPunct, 619), (alnum, 620), (tabByte, 401)]),
    (401, [(minusSign, 402), (digit, 403)]),
    (402, [(digit, 403)]),
    (403, [(digit, 403), (tabByte, 404)]),
    (404, [(idByte, 405)]),
    (405, [(idByte, 405), (semicolon, 404), (tabByte, 406)]),
    (406, [(bases, 407)]),
    (407, [(bases, 407), (tabByte, 408)]),
    (408, [(asterisk, 409), (openAngle, 567), (bases, 569), (openBracket, 594), (closeBracket, 606),
      (period, 618)]),
    (409, [(comma, 564), (tabByte, 410)]),
    (410, [(minusSign, 411), (zeroDigit, 412), (nonzeroDigit, 562), (period, 563)]),
    (411, [(zeroDigit, 412), (nonzeroDigit, 562)]),
    (412, [(period, 557), (exponentMark, 559), (tabByte, 413)]),
    (413, [(filterLead, 414), (alnum, 415), (period, 556)]),
    (414, [(filterPunct, 414), (alnum, 415)]),
    (415, [((alnum ++ filterPunct), 415), (semicolon, 555), (tabByte, 416)]),
    (419, [(alnum, 420)]),
    (420, [(alnum, 420), (colon, 419), (tabByte, 421)]),
    (421, [(period, 422), (digit, 429)]),
    (422, [(alleleSep, 428), (colon, 430), (tabByte, 421), (newlineByte, 624)]),
    (423, [(alnum, 424)]),
    (424, [(chromPunct, 425), (alnum, 426), (closeAngle, 427)]),
    (425, [(chromPunct, 425), (alnum, 426)]),
    (426, [((alnum ++ chromPunct), 426), (closeAngle, 427)]),
    (427, [(tabByte, 401)]),
    (428, [(period, 422), (digit, 429)]),
    (429, [(digit, 429), (alleleSep, 428), (colon, 430), (tabByte, 421), (newlineByte, 624)]),
    (430, [(sampleFieldByte, 431)]),
    (431, [(sampleFieldByte, 431), (colon, 430), (tabByte, 421), (newlineByte, 624)]),
    (437, [(idByte, 438)]),
    (438, [(idByte, 438), (semicolon, 432), (tabByte, 419), (newlineByte, 624)]),
    (440, [(flagDigit, 441)]),
    (441, [(semicolon, 432), (tabByte, 419), (newlineByte, 624)]),
    (444, [(period, 445), (bases, 446)]),
    (445, [(semicolon, 432), (tabByte, 419), (newlineByte, 624)]),
    (446, [(bases, 446), (semicolon, 432), (tabByte, 419), (newlineByte, 624)]),
    (448, [(minusSign, 449), (digit, 450)]),
    (449, [(digit, 450)]),
    (450, [(digit, 450), (comma, 448), (semicolon, 432), (tabByte, 419), (newlineByte, 624)]),
    (452, [(minusSign, 453), (zeroDigit, 454), (nonzeroDigit, 460)]),
    (453, [(zeroDigit, 454), (nonzeroDigit, 460)]),
    (454, [(period, 455), (exponentMark, 457), (comma, 452), (semicolon, 432), (tabByte, 419),
      (newlineByte, 624)]),
    (455, [(digit, 456)]),
    (456, [(digit, 456), (exponentMark, 457), (comma, 452), (semicolon, 432), (tabByte, 419),
      (newlineByte, 624)]),
    (457, [(exponentSign, 458), (digit, 459)]),
    (458, [(digit, 459)]),
    (459, [(digit, 459), (comma, 452), (semicolon, 432), (tabByte, 419), (newlineByte, 624)]),
    (460, [(digit, 460), (period, 455), (exponentMark, 457), (comma, 452), (semicolon, 432),
      (tabByte, 419), (newlineByte, 624)]),
    (462, [(minusSign, 463), (digit, 464)]),
    (463, [(digit, 464)]),
    (464, [(digit, 464), (semicolon, 432), (tabByte, 419), (newlineByte, 624)]),
    (467, [(minusSign, 468), (zeroDigit, 469), (nonzeroDigit, 475)]),
    (468, [(zeroDigit, 469), (nonzeroDigit, 475)]),
    (469, [(period, 470), (exponentMark, 472), (semicolon, 432), (tabByte, 419),
      (newlineByte, 624)]),
    (470, [(digit, 471)]),
    (471, [(digit, 471), (exponentMark, 472), (semicolon, 432), (tabByte, 419),
      (newlineByte, 624)]),
    (472, [(exponentSign, 473), (digit, 474)]),
    (473, [(digit, 474)]),
    (474, [(digit, 474), (semicolon, 432), (tabByte, 419), (newlineByte, 624)]),
    (475, [(digit, 475), (period, 470), (exponentMark, 472), (semicolon, 432), (tabByte, 419),
      (newlineByte, 624)]),
    (481, [(alnum, 482)]),
    (482, [(alnum, 482), (semicolon, 432), (tabByte, 419), (newlineByte, 624)]),
    (485, [(flagDigit, 486)]),
    (486, [(semicolon, 432), (tabByte, 419), (newlineByte, 624)]),
    (488, [(minusSign, 489), (digit, 490)]),
    (489, [(digit, 490)]),
    (490, [(digit, 490), (semicolon, 432), (tabByte, 419), (newlineByte, 624)]),
    (494, [(minusSign, 495), (digit, 496)]),
    (495, [(digit, 496)]),
    (496, [(digit, 496), (semicolon, 432), (tabByte, 419), (newlineByte, 624)]),
    (499, [(flagDigit, 500)]),
    (500, [(semicolon, 432), (tabByte, 419), (newlineByte, 624)]),
    (502, [(flagDigit, 503)]),
    (503, [(semicolon, 432), (tabByte, 419), (newlineByte, 624)]),
    (507, [(minusSign, 508), (digit, 509)]),
    (508, [(digit, 509)]),
    (509, [(digit, 509), (semicolon, 432), (tabByte, 419), (newlineByte, 624)]),
    (510, [(minusSign, 511), (zeroDigit, 512), (nonzeroDigit, 518)]),
    (511, [(zeroDigit, 512), (nonzeroDigit, 518)]),
    (512, [(period, 513), (exponentMark, 515), (semicolon, 432), (tabByte, 419),
      (newlineByte, 624)]),
    (513, [(digit, 514)]),
    (514, [(digit, 514), (exponentMark, 515), (semicolon, 432), (tabByte, 419),
      (newlineByte, 624)]),
    (515, [(exponentSign, 516), (digit, 517)]),
    (516, [(digit, 517)]),
    (517, [(digit, 517), (semicolon, 432), (tabByte, 419), (newlineByte, 624)]),
    (518, [(digit, 518), (period, 513), (exponentMark, 515), (semicolon, 432), (tabByte, 419),
      (newlineByte, 624)]),
    (521, [(minusSign, 522), (digit, 523)]),
    (522, [(digit, 523)]),
    (523, [(digit, 523), (semicolon, 432), (tabByte, 419), (newlineByte, 624)]),
    (526, [(minusSign, 527), (zeroDigit, 528), (nonzeroDigit, 534)]),
    (527, [(zeroDigit, 528), (nonzeroDigit, 534)]),
    (528, [(period, 529), (exponentMark, 531), (semicolon, 432), (tabByte, 419),
      (newlineByte, 624)]),
    (529, [(digit, 530)]),
    (530, [(digit, 530), (exponentMark, 531), (semicolon, 432), (tabByte, 419),
      (newlineByte, 624)]),
    (531, [(exponentSign, 532), (digit, 533)]),
    (532, [(digit, 533)]),
    (533, [(digit, 533), (semicolon, 432), (tabByte, 419), (newlineByte, 624)]),
    (534, [(digit, 534), (period, 529), (exponentMark, 531), (semicolon, 432), (tabByte, 419),
      (newlineByte, 624)]),
    (541, [(flagDigit, 542)]),
    (542, [(semicolon, 432), (tabByte, 419), (newlineByte, 624)]),
    (552, [(flagDigit, 553)]),
    (553, [(semicolon, 432), (tabByte, 419), (newlineByte, 624)]),
    (555, [(filterPunct, 414), (alnum, 415)]),
    (556, [(filterPunct, 414), (alnum, 415), (tabByte, 416)]),
    (557, [(digit, 558)]),
    (558, [(digit, 558), (exponentMark, 559), (tabByte, 413)]),
    (559, [(exponentSign, 560), (digit, 561)]),
    (560, [(digit, 561)]),
    (561, [(digit, 561), (tabByte, 413)]),
    (562, [(digit, 562), (period, 557), (exponentMark, 559), (tabByte, 413)]),
    (563, [(tabByte, 413)]),
    (564, [(asterisk, 409), (period, 565), (openAngle, 567), (bases, 569), (openBracket, 594),
      (closeBracket, 606)]),
    (565, [(bases, 566)]),
    (566, [(comma, 564), (bases, 566), (tabByte, 410)]),
    (567, [(altPunct, 567), (alnum, 568)]),
    (568, [((alnum ++ altPunct), 568), (closeAngle, 409)]),
    (569, [(period, 409), (comma, 564), (bases, 569), (openBracket, 570), (closeBracket, 582),
      (tabByte, 410)]),
    (570, [(alnum, 571), (openAngle, 577)]),
    (571, [(chromPunct, 572), (alnum, 573), (colon, 574)]),
    (572, [(chromPunct, 572), (alnum, 573)]),
    (573, [((alnum ++ chromPunct), 573), (colon, 574)]),
    (574, [(minusSign, 575), (digit, 576)]),
    (575, [(digit, 576)]),
    (576, [(digit, 576), (openBracket, 409)]),
    (577, [(alnum, 578)]),
    (578, [(chromPunct, 579), (alnum, 580), (closeAngle, 581)]),
    (579, [(chromPunct, 579), (alnum, 580)]),
    (580, [((alnum ++ chromPunct), 580), (closeAngle, 581)]),
    (581, [(colon, 574)]),
    (582, [(alnum, 583), (openAngle, 589)]),
    (583, [(chromPunct, 584), (alnum, 585), (colon, 586)]),
    (584, [(chromPunct, 584), (alnum, 585)]),
    (585, [((alnum ++ chromPunct), 585), (colon, 586)]),
    (586, [(minusSign, 587), (digit, 588)]),
    (587, [(digit, 588)]),
    (588, [(digit, 588), (closeBracket, 409)]),
    (589, [(alnum, 590)]),
    (590, [(chromPunct, 591), (alnum, 592), (closeAngle, 593)]),
    (591, [(chromPunct, 591), (alnum, 592)]),
    (592, [((alnum ++ chromPunct), 592), (closeAngle, 593)]),
    (593, [(colon, 586)]),
    (594, [(alnum, 595), (openAngle, 601)]),
    (595, [(chromPunct, 596), (alnum, 597), (colon, 598)]),
    (596, [(chromPunct, 596), (alnum, 597)]),
    (597, [((alnum ++ chromPunct), 597), (colon, 598)]),
    (598, [(minusSign, 599), (digit, 600)]),
    (599, [(digit, 600)]),
    (600, [(digit, 600), (openBracket, 565)]),
    (601, [(alnum, 602)]),
    (602, [(chromPunct, 603), (alnum, 604), (closeAngle, 605)]),
    (603, [(chromPunct, 603), (alnum, 604)]),
    (604, [((alnum ++ chromPunct), 604), (closeAngle, 605)]),
    (605, [(colon, 598)]),
    (606, [(alnum, 607), (openAngle, 613)]),
    (607, [(chromPunct, 608), (alnum, 609), (colon, 610)]),
    (608, [(chromPunct, 608), (alnum, 609)]),
    (609, [((alnum ++ chromPunct), 609), (colon, 610)]),
    (610, [(minusSign, 611), (digit, 612)]),
    (611, [(digit, 612)]),
    (612, [(digit, 612), (closeBracket, 565)]),
    (613, [(alnum, 614)]),
    (614, [(chromPunct, 615), (alnum, 616), (closeAngle, 617)]),
    (615, [(chromPunct, 615), (alnum, 616)]),
    (616, [((alnum ++ chromPunct), 616), (closeAngle, 617)]),
    (617, [(colon, 610)]),
    (618, [(bases, 566), (tabByte, 410)]),
    (619, [(chromPunct, 619), (alnum, 620)]),
    (620, [((alnum ++ chromPunct), 620), (tabByte, 401)]),
    (623, [(alnum, 400), (openAngle, 423)]),
    (624, [(alnum, 400), (openAngle, 423)])]


/-- The classes of a body state; none for a state not in `bodyClasses`. -/
def classesOf (cs : Nat) : List (List (Nat × Nat) × Nat) :=
  ((bodyClasses.find? fun entry => entry.1 == cs).map (·.2)).getD []

set_option maxRecDepth 20000 in
theorem rows_bodyClasses :
    rowsFit 400 (rows.toList.drop 400) (bodyClasses.map fun entry => (entry.1, Row.walksAs entry.2)) =
      true := by
  decide

/-- The label of a listed body state and any byte walks as the state's classes say. -/
theorem label_classes {cs : Nat} (listed : (bodyClasses.find? fun entry => entry.1 == cs).isSome)
    (c : UInt8) : (label cs c).walksTo = classWalk (classesOf cs) c := by
  obtain ⟨entry, found⟩ := Option.isSome_iff_exists.mp listed
  have same : entry.1 = cs := by
    simpa using List.find?_some (p := fun entry : Nat × List (List (Nat × Nat) × Nat) => entry.1 == cs) found
  have fits := row_of_rowsFit rows_bodyClasses
    (List.mem_map_of_mem (fun entry => (entry.1, Row.walksAs entry.2)) (List.mem_of_find?_eq_some found))
  rw [same] at fits
  rw [classesOf, found, Option.map_some', Option.getD_some]
  exact label_walksAs fits c

end VcfValidator
