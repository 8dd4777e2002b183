import VcfValidator.Scanner.MetaRows
import VcfValidator.Scanner.BodyRows

/-!
# The scanner's tables

`rows` maps the value of `cs` to the dispatch of its `case`; the dead state 0 (`st0: cs = 0;
goto _out;`) has no case and reads no byte. `eofGroups` is the `switch ( cs )` under
`if ( p == eof )`: the states sharing one action list, in source order.
-/

namespace VcfValidator.Scanner

set_option autoImplicit false

/-- `st0`: no `case` in the dispatch; the scanner stays in state 0 and calls nothing. -/
def st0 : Row := ⟨[], go 0⟩

def rows : Array Row :=
  #[st0, st1, st2, st3, st4, st5, st6, st7, st8, st9, st10, st11, st12, st13, st14, st15, st16,
    st17, st18, st19, st20, st21, st22, st23, st24, st25, st26, st27, st28, st29, st30, st31,
    st32, st33, st34, st35, st36, st37, st38, st39, st40, st41, st42, st43, st44, st45, st46,
    st47, st48, st49, st50, st51, st52, st53, st54, st55, st56, st57, st58, st59, st60, st61,
    st62, st63, st64, st65, st66, st67, st68, st69, st70, st71, st72, st73, st74, st75, st76,
    st77, st78, st79, st80, st81, st82, st83, st84, st85, st86, st87, st88, st89, st90, st91,
    st92, st93, st94, st95, st96, st97, st98, st99, st100, st101, st102, st103, st104, st105,
    st106, st107, st108, st109, st110, st111, st112, st113, st114, st115, st116, st117, st118,
    st119, st120, st121, st122, st123, st124, st125, st126, st127, st128, st129, st130, st131,
    st132, st133, st134, st135, st136, st137, st138, st139, st140, st141, st142, st143, st144,
    st145, st146, st147, st148, st149, st150, st151, st152, st153, st154, st155, st156, st157,
    st158, st159, st160, st161, st162, st163, st164, st165, st166, st167, st168, st169, st170,
    st171, st172, st173, st174, st175, st176, st177, st178, st179, st180, st181, st182, st183,
    st184, st185, st186, st187, st188, st189, st190, st191, st192, st193, st194, st195, st196,
    st197, st198, st199, st200, st201, st202, st203, st204, st205, st206, st207, st208, st209,
    st210, st211, st212, st213, st214, st215, st216, st217, st218, st219, st220, st221, st222,
    st223, st224, st225, st226, st227, st228, st229, st230, st231, st232, st233, st234, st235,
    st236, st237, st238, st239, st240, st241, st242, st243, st244, st245, st246, st247, st248,
    st249, st250, st251, st252, st253, st254, st255, st256, st257, st258, st259, st260, st261,
    st262, st263, st264, st265, st266, st267, st268, st269, st270, st271, st272, st273, st274,
    st275, st276, st277, st278, st279, st280, st281, st282, st283, st284, st285, st286, st287,
    st288, st289, st290, st291, st292, st293, st294, st295, st296, st297, st298, st299, st300,
    st301, st302, st303, st304, st305, st306, st307, st308, st309, st310, st311, st312, st313,
    st314, st315, st316, st317, st318, st319, st320, st321, st322, st323, st324, st325, st326,
    st327, st328, st329, st330, st331, st332, st333, st334, st335, st336, st337, st338, st339,
    st340, st341, st342, st343, st344, st345, st346, st347, st348, st349, st350, st351, st352,
    st353, st354, st355, st356, st357, st358, st359, st360, st361, st362, st363, st364, st365,
    st366, st367, st368, st369, st370, st371, st372, st373, st374, st375, st376, st377, st378,
    st379, st380, st381, st382, st383, st384, st385, st386, st387, st388, st389, st390, st391,
    st392, st393, st394, st395, st396, st397, st398, st399, st400, st401, st402, st403, st404,
    st405, st406, st407, st408, st409, st410, st411, st412, st413, st414, st415, st416, st417,
    st418, st419, st420, st421, st422, st423, st424, st425, st426, st427, st428, st429, st430,
    st431, st432, st433, st434, st435, st436, st437, st438, st439, st440, st441, st442, st443,
    st444, st445, st446, st447, st448, st449, st450, st451, st452, st453, st454, st455, st456,
    st457, st458, st459, st460, st461, st462, st463, st464, st465, st466, st467, st468, st469,
    st470, st471, st472, st473, st474, st475, st476, st477, st478, st479, st480, st481, st482,
    st483, st484, st485, st486, st487, st488, st489, st490, st491, st492, st493, st494, st495,
    st496, st497, st498, st499, st500, st501, st502, st503, st504, st505, st506, st507, st508,
    st509, st510, st511, st512, st513, st514, st515, st516, st517, st518, st519, st520, st521,
    st522, st523, st524, st525, st526, st527, st528, st529, st530, st531, st532, st533, st534,
    st535, st536, st537, st538, st539, st540, st541, st542, st543, st544, st545, st546, st547,
    st548, st549, st550, st551, st552, st553, st554, st555, st556, st557, st558, st559, st560,
    st561, st562, st563, st564, st565, st566, st567, st568, st569, st570, st571, st572, st573,
    st574, st575, st576, st577, st578, st579, st580, st581, st582, st583, st584, st585, st586,
    st587, st588, st589, st590, st591, st592, st593, st594, st595, st596, st597, st598, st599,
    st600, st601, st602, st603, st604, st605, st606, st607, st608, st609, st610, st611, st612,
    st613, st614, st615, st616, st617, st618, st619, st620, st621, st622, st623, st624, st625,
    st626]

def eofGroups : List (List Nat × List Action) :=
  [(List.range' 1 13,
    [fileformatSectionError]),
   ([19] ++ List.range' 21 49,
    [metaSectionError]),
   (List.range' 391 9,
    [headerSectionError]),
   (List.range' 14 2,
    [fileformatCharsError, fileformatSectionError]),
   (List.range' 70 7 ++ List.range' 79 14 ++ List.range' 98 2,
    [altMetaError, metaSectionError]),
   (List.range' 300 8,
    [assemblyMetaError, metaSectionError]),
   (List.range' 315 10 ++ List.range' 329 6,
    [contigMetaError, metaSectionError]),
   (List.range' 102 9 ++ List.range' 114 14 ++ List.range' 133 2,
    [filterMetaError, metaSectionError]),
   (List.range' 135 9 ++ List.range' 147 7 ++ List.range' 156 5 ++ List.range' 163 14 ++ List.range' 182 2,
    [formatMetaError, metaSectionError]),
   (List.range' 185 8 ++ List.range' 196 7 ++ List.range' 205 5 ++ List.range' 212 14 ++ List.range' 231 2,
    [infoMetaError, metaSectionError]),
   (List.range' 234 9 ++ [249],
    [pedigreeMetaError, metaSectionError]),
   (List.range' 335 11,
    [pedigreeDbMetaError, metaSectionError]),
   (List.range' 250 10 ++ [299],
    [sampleMetaError, metaSectionError]),
   (List.range' 354 37,
    [headerColumnsError, headerSectionError]),
   ([400] ++ List.range' 423 5 ++ List.range' 619 2,
    [chromError, bodySectionError]),
   (List.range' 401 3,
    [posError, bodySectionError]),
   (List.range' 404 2,
    [idError, bodySectionError]),
   (List.range' 406 2,
    [refError, bodySectionError]),
   (List.range' 408 2 ++ List.range' 564 55,
    [altError, bodySectionError]),
   (List.range' 410 3 ++ List.range' 557 7,
    [qualError, bodySectionError]),
   (List.range' 413 3 ++ List.range' 555 2,
    [filterError, bodySectionError]),
   (List.range' 419 2,
    [formatError, bodySectionError]),
   (List.range' 430 2,
    [sampleError, bodySectionError]),
   ([17] ++ [20],
    [metaSectionError, headerColumnsError, headerSectionError]),
   (List.range' 77 2 ++ [100],
    [altIdPrefixError, altMetaError, metaSectionError]),
   ([101],
    [filterMetaError, formatMetaError, metaSectionError]),
   (List.range' 154 2 ++ [184],
    [formatNumberError, formatMetaError, metaSectionError]),
   (List.range' 203 2 ++ [233],
    [infoNumberError, infoMetaError, metaSectionError]),
   (List.range' 161 2,
    [infoTypeError, formatMetaError, metaSectionError]),
   (List.range' 210 2,
    [infoTypeError, infoMetaError, metaSectionError]),
   (List.range' 263 9,
    [sampleGenomesError, sampleMetaError, metaSectionError]),
   (List.range' 273 9,
    [sampleMixtureError, sampleMetaError, metaSectionError]),
   (List.range' 95 3,
    [metaIdError, altMetaError, metaSectionError]),
   (List.range' 325 4,
    [metaIdError, contigMetaError, metaSectionError]),
   (List.range' 111 3 ++ List.range' 130 3,
    [metaIdError, filterMetaError, metaSectionError]),
   (List.range' 144 3 ++ List.range' 179 3,
    [metaIdError, formatMetaError, metaSectionError]),
   (List.range' 193 3 ++ List.range' 228 3,
    [metaIdError, infoMetaError, metaSectionError]),
   (List.range' 243 6,
    [metaIdError, pedigreeMetaError, metaSectionError]),
   (List.range' 260 2,
    [metaIdError, sampleMetaError, metaSectionError]),
   (List.range' 93 2,
    [descriptionError, altMetaError, metaSectionError]),
   (List.range' 128 2,
    [descriptionError, filterMetaError, metaSectionError]),
   (List.range' 177 2,
    [descriptionError, formatMetaError, metaSectionError]),
   (List.range' 226 2,
    [descriptionError, infoMetaError, metaSectionError]),
   (List.range' 283 16,
    [descriptionError, sampleMetaError, metaSectionError]),
   (List.range' 308 7,
    [urlError, assemblyMetaError, metaSectionError]),
   (List.range' 346 8,
    [urlError, pedigreeDbMetaError, metaSectionError]),
   (List.range' 416 3 ++ List.range' 432 5 ++ List.range' 442 2 ++ [447] ++ [451] ++ [461] ++ List.range' 465 2 ++ List.range' 476 5 ++ [483] ++ [487] ++ List.range' 491 3 ++ [497] ++ List.range' 504 3 ++ List.range' 519 2 ++ List.range' 524 2 ++ List.range' 535 5 ++ List.range' 543 8 ++ [554],
    [infoKeyError, infoError, bodySectionError]),
   (List.range' 437 2,
    [infoValueError, infoError, bodySectionError]),
   (List.range' 444 3,
    [infoAaError, infoError, bodySectionError]),
   (List.range' 448 3,
    [infoAcError, infoError, bodySectionError]),
   (List.range' 452 9,
    [infoAfError, infoError, bodySectionError]),
   (List.range' 462 3,
    [infoAnError, infoError, bodySectionError]),
   (List.range' 467 9,
    [infoBqError, infoError, bodySectionError]),
   (List.range' 481 2,
    [infoCigarError, infoError, bodySectionError]),
   (List.range' 485 2,
    [infoDbError, infoError, bodySectionError]),
   (List.range' 488 3,
    [infoDpError, infoError, bodySectionError]),
   (List.range' 494 3,
    [infoEndError, infoError, bodySectionError]),
   (List.range' 499 2,
    [infoH2Error, infoError, bodySectionError]),
   (List.range' 502 2,
    [infoH3Error, infoError, bodySectionError]),
   (List.range' 510 9,
    [infoMqError, infoError, bodySectionError]),
   (List.range' 507 3,
    [infoMq0Error, infoError, bodySectionError]),
   (List.range' 521 3,
    [infoNsError, infoError, bodySectionError]),
   (List.range' 526 9,
    [infoSbError, infoError, bodySectionError]),
   (List.range' 541 2,
    [infoSomaticError, infoError, bodySectionError]),
   (List.range' 552 2,
    [infoValidatedError, infoError, bodySectionError]),
   (List.range' 440 2,
    [info1000gError, infoError, bodySectionError]),
   (List.range' 421 2 ++ List.range' 428 2,
    [genotypeError, sampleError, bodySectionError]),
   ([16],
    [fileformatSectionError, metaSectionError, headerColumnsError, headerSectionError]),
   ([272],
    [sampleGenomesError, sampleMixtureError, sampleMetaError, metaSectionError]),
   ([282],
    [sampleMixtureError, descriptionError, sampleMetaError, metaSectionError]),
   ([262],
    [metaIdError, sampleGenomesError, sampleMetaError, metaSectionError]),
   ([484],
    [infoDbError, infoKeyError, infoError, bodySectionError]),
   ([498],
    [infoH2Error, infoKeyError, infoError, bodySectionError]),
   ([501],
    [infoH3Error, infoKeyError, infoError, bodySectionError]),
   ([540],
    [infoSomaticError, infoKeyError, infoError, bodySectionError]),
   ([551],
    [infoValidatedError, infoKeyError, infoError, bodySectionError]),
   ([439],
    [info1000gError, infoKeyError, infoError, bodySectionError]),
   ([18],
    [altMetaError, filterMetaError, formatMetaError, infoMetaError, assemblyMetaError, contigMetaError, sampleMetaError, pedigreeMetaError, pedigreeDbMetaError, metaSectionError])]

end VcfValidator.Scanner
