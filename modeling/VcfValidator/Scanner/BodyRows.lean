import VcfValidator.Scanner.Transitions

/-!
# Dispatch of the header and body states

The `case N:` blocks of `Parser::parse_buffer` for the header line (354 to 399), the body lines
(400 to 620, 623 and 624), the body skip state 622 and the two states 625 and 626 that follow the
skip states' `fgoto`.
-/

namespace VcfValidator.Scanner

set_option autoImplicit false

def st354 : Row := ⟨[⟨72, 72, go 355⟩], tr478⟩

def st355 : Row := ⟨[⟨82, 82, go 356⟩], tr478⟩

def st356 : Row := ⟨[⟨79, 79, go 357⟩], tr478⟩

def st357 : Row := ⟨[⟨77, 77, go 358⟩], tr478⟩

def st358 : Row := ⟨[⟨9, 9, go 359⟩], tr478⟩

def st359 : Row := ⟨[⟨80, 80, go 360⟩], tr478⟩

def st360 : Row := ⟨[⟨79, 79, go 361⟩], tr478⟩

def st361 : Row := ⟨[⟨83, 83, go 362⟩], tr478⟩

def st362 : Row := ⟨[⟨9, 9, go 363⟩], tr478⟩

def st363 : Row := ⟨[⟨73, 73, go 364⟩], tr478⟩

def st364 : Row := ⟨[⟨68, 68, go 365⟩], tr478⟩

def st365 : Row := ⟨[⟨9, 9, go 366⟩], tr478⟩

def st366 : Row := ⟨[⟨82, 82, go 367⟩], tr478⟩

def st367 : Row := ⟨[⟨69, 69, go 368⟩], tr478⟩

def st368 : Row := ⟨[⟨70, 70, go 369⟩], tr478⟩

def st369 : Row := ⟨[⟨9, 9, go 370⟩], tr478⟩

def st370 : Row := ⟨[⟨65, 65, go 371⟩], tr478⟩

def st371 : Row := ⟨[⟨76, 76, go 372⟩], tr478⟩

def st372 : Row := ⟨[⟨84, 84, go 373⟩], tr478⟩

def st373 : Row := ⟨[⟨9, 9, go 374⟩], tr478⟩

def st374 : Row := ⟨[⟨81, 81, go 375⟩], tr478⟩

def st375 : Row := ⟨[⟨85, 85, go 376⟩], tr478⟩

def st376 : Row := ⟨[⟨65, 65, go 377⟩], tr478⟩

def st377 : Row := ⟨[⟨76, 76, go 378⟩], tr478⟩

def st378 : Row := ⟨[⟨9, 9, go 379⟩], tr478⟩

def st379 : Row := ⟨[⟨70, 70, go 380⟩], tr478⟩

def st380 : Row := ⟨[⟨73, 73, go 381⟩], tr478⟩

def st381 : Row := ⟨[⟨76, 76, go 382⟩], tr478⟩

def st382 : Row := ⟨[⟨84, 84, go 383⟩], tr478⟩

def st383 : Row := ⟨[⟨69, 69, go 384⟩], tr478⟩

def st384 : Row := ⟨[⟨82, 82, go 385⟩], tr478⟩

def st385 : Row := ⟨[⟨9, 9, go 386⟩], tr478⟩

def st386 : Row := ⟨[⟨73, 73, go 387⟩], tr478⟩

def st387 : Row := ⟨[⟨78, 78, go 388⟩], tr478⟩

def st388 : Row := ⟨[⟨70, 70, go 389⟩], tr478⟩

def st389 : Row := ⟨[⟨79, 79, go 390⟩], tr478⟩

def st390 : Row := ⟨[⟨9, 9, go 391⟩, ⟨10, 10, tr516⟩], tr478⟩

def st391 : Row := ⟨[⟨70, 70, go 392⟩], tr517⟩

def st392 : Row := ⟨[⟨79, 79, go 393⟩], tr517⟩

def st393 : Row := ⟨[⟨82, 82, go 394⟩], tr517⟩

def st394 : Row := ⟨[⟨77, 77, go 395⟩], tr517⟩

def st395 : Row := ⟨[⟨65, 65, go 396⟩], tr517⟩

def st396 : Row := ⟨[⟨84, 84, go 397⟩], tr517⟩

def st397 : Row := ⟨[⟨9, 9, go 398⟩], tr517⟩

def st398 : Row := ⟨[⟨32, 126, tr525⟩], tr517⟩

def st399 : Row := ⟨[⟨9, 9, tr526⟩, ⟨10, 10, tr527⟩, ⟨32, 126, tr528⟩], tr517⟩

def st400 : Row :=
  ⟨[⟨9, 9, tr530⟩, ⟨59, 59, tr531⟩, ⟨61, 61, tr531⟩, ⟨33, 47, tr531⟩, ⟨63, 64, tr531⟩,
    ⟨48, 57, tr532⟩, ⟨91, 96, tr531⟩, ⟨123, 126, tr531⟩, ⟨97, 122, tr532⟩, ⟨65, 90, tr532⟩],
   tr529⟩

def st401 : Row := ⟨[⟨45, 45, tr534⟩, ⟨48, 57, tr535⟩], tr533⟩

def st402 : Row := ⟨[⟨48, 57, tr536⟩], tr533⟩

def st403 : Row := ⟨[⟨9, 9, tr537⟩, ⟨48, 57, tr536⟩], tr533⟩

def st404 : Row := ⟨[⟨60, 126, tr539⟩, ⟨33, 58, tr539⟩], tr538⟩

def st405 : Row := ⟨[⟨9, 9, tr540⟩, ⟨59, 59, tr542⟩, ⟨33, 126, tr541⟩], tr538⟩

def st406 : Row :=
  ⟨[⟨65, 65, tr544⟩, ⟨67, 67, tr544⟩, ⟨71, 71, tr544⟩, ⟨78, 78, tr544⟩, ⟨84, 84, tr544⟩,
    ⟨97, 97, tr544⟩, ⟨99, 99, tr544⟩, ⟨103, 103, tr544⟩, ⟨110, 110, tr544⟩, ⟨116, 116, tr544⟩],
   tr543⟩

def st407 : Row :=
  ⟨[⟨9, 9, tr545⟩, ⟨65, 65, tr546⟩, ⟨67, 67, tr546⟩, ⟨71, 71, tr546⟩, ⟨78, 78, tr546⟩,
    ⟨84, 84, tr546⟩, ⟨97, 97, tr546⟩, ⟨99, 99, tr546⟩, ⟨103, 103, tr546⟩, ⟨110, 110, tr546⟩,
    ⟨116, 116, tr546⟩],
   tr543⟩

def st408 : Row :=
  ⟨[⟨42, 42, tr548⟩, ⟨46, 46, tr549⟩, ⟨60, 60, tr550⟩, ⟨65, 65, tr551⟩, ⟨67, 67, tr551⟩,
    ⟨71, 71, tr551⟩, ⟨78, 78, tr551⟩, ⟨84, 84, tr551⟩, ⟨91, 91, tr552⟩, ⟨93, 93, tr553⟩,
    ⟨97, 97, tr551⟩, ⟨99, 99, tr551⟩, ⟨103, 103, tr551⟩, ⟨110, 110, tr551⟩, ⟨116, 116, tr551⟩],
   tr547⟩

def st409 : Row := ⟨[⟨9, 9, tr554⟩, ⟨44, 44, tr555⟩], tr547⟩

def st410 : Row :=
  ⟨[⟨45, 45, tr557⟩, ⟨46, 46, tr558⟩, ⟨48, 48, tr559⟩, ⟨49, 57, tr560⟩],
   tr556⟩

def st411 : Row := ⟨[⟨48, 48, tr561⟩, ⟨49, 57, tr562⟩], tr556⟩

def st412 : Row :=
  ⟨[⟨9, 9, tr563⟩, ⟨46, 46, tr564⟩, ⟨69, 69, tr565⟩, ⟨101, 101, tr565⟩],
   tr556⟩

def st413 : Row :=
  ⟨[⟨46, 46, tr568⟩, ⟨58, 58, tr567⟩, ⟨33, 47, tr567⟩, ⟨60, 64, tr567⟩, ⟨48, 57, tr569⟩,
    ⟨91, 96, tr567⟩, ⟨123, 126, tr567⟩, ⟨97, 122, tr569⟩, ⟨65, 90, tr569⟩],
   tr566⟩

def st414 : Row :=
  ⟨[⟨58, 58, go 414⟩, ⟨33, 47, go 414⟩, ⟨60, 64, go 414⟩, ⟨48, 57, tr571⟩, ⟨91, 96, go 414⟩,
    ⟨123, 126, go 414⟩, ⟨97, 122, tr571⟩, ⟨65, 90, tr571⟩],
   tr566⟩

def st415 : Row := ⟨[⟨9, 9, tr572⟩, ⟨59, 59, tr573⟩, ⟨33, 126, tr571⟩], tr566⟩

def st416 : Row :=
  ⟨[⟨46, 46, tr576⟩, ⟨49, 49, tr578⟩, ⟨58, 58, tr575⟩, ⟨60, 60, tr575⟩, ⟨65, 65, tr579⟩,
    ⟨66, 66, tr580⟩, ⟨67, 67, tr581⟩, ⟨68, 68, tr582⟩, ⟨69, 69, tr583⟩, ⟨72, 72, tr584⟩,
    ⟨77, 77, tr585⟩, ⟨78, 78, tr586⟩, ⟨83, 83, tr587⟩, ⟨86, 86, tr588⟩, ⟨33, 47, tr575⟩,
    ⟨62, 64, tr575⟩, ⟨48, 57, tr577⟩, ⟨91, 96, tr575⟩, ⟨123, 126, tr575⟩, ⟨97, 122, tr577⟩,
    ⟨70, 90, tr577⟩],
   tr574⟩

def st417 : Row :=
  ⟨[⟨58, 58, tr589⟩, ⟨60, 60, tr589⟩, ⟨33, 47, tr589⟩, ⟨62, 64, tr589⟩, ⟨48, 57, tr590⟩,
    ⟨91, 96, tr589⟩, ⟨123, 126, tr589⟩, ⟨97, 122, tr590⟩, ⟨65, 90, tr590⟩],
   tr574⟩

def st418 : Row :=
  ⟨[⟨9, 9, tr591⟩, ⟨10, 10, tr592⟩, ⟨59, 59, tr593⟩, ⟨61, 61, tr594⟩, ⟨33, 126, tr590⟩],
   tr574⟩

def st419 : Row := ⟨[⟨48, 57, tr596⟩, ⟨97, 122, tr596⟩, ⟨65, 90, tr596⟩], tr595⟩

def st420 : Row :=
  ⟨[⟨9, 9, tr597⟩, ⟨58, 58, tr599⟩, ⟨48, 57, tr598⟩, ⟨97, 122, tr598⟩, ⟨65, 90, tr598⟩],
   tr595⟩

def st421 : Row := ⟨[⟨46, 46, tr601⟩, ⟨48, 57, tr602⟩], tr600⟩

def st422 : Row :=
  ⟨[⟨9, 9, tr597⟩, ⟨10, 10, tr592⟩, ⟨47, 47, tr603⟩, ⟨58, 58, tr604⟩, ⟨124, 124, tr603⟩],
   tr600⟩

def st423 : Row := ⟨[⟨48, 57, tr605⟩, ⟨97, 122, tr605⟩, ⟨65, 90, tr605⟩], tr529⟩

def st424 : Row :=
  ⟨[⟨59, 59, tr606⟩, ⟨62, 62, tr608⟩, ⟨33, 47, tr606⟩, ⟨61, 64, tr606⟩, ⟨48, 57, tr607⟩,
    ⟨91, 96, tr606⟩, ⟨123, 126, tr606⟩, ⟨97, 122, tr607⟩, ⟨65, 90, tr607⟩],
   tr529⟩

def st425 : Row :=
  ⟨[⟨59, 59, tr606⟩, ⟨61, 61, tr606⟩, ⟨33, 47, tr606⟩, ⟨63, 64, tr606⟩, ⟨48, 57, tr607⟩,
    ⟨91, 96, tr606⟩, ⟨123, 126, tr606⟩, ⟨97, 122, tr607⟩, ⟨65, 90, tr607⟩],
   tr529⟩

def st426 : Row :=
  ⟨[⟨59, 59, tr607⟩, ⟨62, 62, tr608⟩, ⟨61, 126, tr607⟩, ⟨33, 57, tr607⟩],
   tr529⟩

def st427 : Row := ⟨[⟨9, 9, tr609⟩], tr529⟩

def st428 : Row := ⟨[⟨46, 46, tr610⟩, ⟨48, 57, tr611⟩], tr600⟩

def st429 : Row :=
  ⟨[⟨9, 9, tr597⟩, ⟨10, 10, tr592⟩, ⟨47, 47, tr603⟩, ⟨58, 58, tr604⟩, ⟨124, 124, tr603⟩,
    ⟨48, 57, tr611⟩],
   tr600⟩

def st430 : Row := ⟨[⟨59, 126, tr613⟩, ⟨33, 57, tr613⟩], tr612⟩

def st431 : Row :=
  ⟨[⟨9, 9, tr597⟩, ⟨10, 10, tr592⟩, ⟨58, 58, tr604⟩, ⟨33, 126, tr613⟩],
   tr612⟩

def st432 : Row :=
  ⟨[⟨49, 49, tr578⟩, ⟨58, 58, tr575⟩, ⟨60, 60, tr575⟩, ⟨65, 65, tr579⟩, ⟨66, 66, tr580⟩,
    ⟨67, 67, tr581⟩, ⟨68, 68, tr582⟩, ⟨69, 69, tr583⟩, ⟨72, 72, tr584⟩, ⟨77, 77, tr585⟩,
    ⟨78, 78, tr586⟩, ⟨83, 83, tr587⟩, ⟨86, 86, tr588⟩, ⟨33, 47, tr575⟩, ⟨62, 64, tr575⟩,
    ⟨48, 57, tr577⟩, ⟨91, 96, tr575⟩, ⟨123, 126, tr575⟩, ⟨97, 122, tr577⟩, ⟨70, 90, tr577⟩],
   tr574⟩

def st433 : Row :=
  ⟨[⟨9, 9, tr591⟩, ⟨10, 10, tr592⟩, ⟨48, 48, tr614⟩, ⟨59, 59, tr593⟩, ⟨61, 61, tr594⟩,
    ⟨33, 126, tr590⟩],
   tr574⟩

def st434 : Row :=
  ⟨[⟨9, 9, tr591⟩, ⟨10, 10, tr592⟩, ⟨48, 48, tr615⟩, ⟨59, 59, tr593⟩, ⟨61, 61, tr594⟩,
    ⟨33, 126, tr590⟩],
   tr574⟩

def st435 : Row :=
  ⟨[⟨9, 9, tr591⟩, ⟨10, 10, tr592⟩, ⟨48, 48, tr616⟩, ⟨59, 59, tr593⟩, ⟨61, 61, tr594⟩,
    ⟨33, 126, tr590⟩],
   tr574⟩

def st436 : Row :=
  ⟨[⟨9, 9, tr591⟩, ⟨10, 10, tr592⟩, ⟨59, 59, tr593⟩, ⟨61, 61, tr594⟩, ⟨71, 71, tr617⟩,
    ⟨33, 126, tr590⟩],
   tr574⟩

def st437 : Row := ⟨[⟨60, 126, tr619⟩, ⟨33, 58, tr619⟩], tr618⟩

def st438 : Row :=
  ⟨[⟨9, 9, tr591⟩, ⟨10, 10, tr592⟩, ⟨59, 59, tr593⟩, ⟨33, 126, tr619⟩],
   tr618⟩

def st439 : Row :=
  ⟨[⟨9, 9, tr591⟩, ⟨10, 10, tr592⟩, ⟨59, 59, tr593⟩, ⟨61, 61, tr621⟩, ⟨33, 126, tr590⟩],
   tr620⟩

def st440 : Row := ⟨[⟨48, 49, tr623⟩], tr622⟩

def st441 : Row := ⟨[⟨9, 9, tr591⟩, ⟨10, 10, tr592⟩, ⟨59, 59, tr593⟩], tr622⟩

def st442 : Row :=
  ⟨[⟨9, 9, tr591⟩, ⟨10, 10, tr592⟩, ⟨59, 59, tr593⟩, ⟨61, 61, tr594⟩, ⟨65, 65, tr624⟩,
    ⟨67, 67, tr625⟩, ⟨70, 70, tr626⟩, ⟨78, 78, tr627⟩, ⟨33, 126, tr590⟩],
   tr574⟩

def st443 : Row := ⟨[⟨61, 61, tr628⟩, ⟨60, 126, tr590⟩, ⟨33, 58, tr590⟩], tr574⟩

def st444 : Row :=
  ⟨[⟨46, 46, tr630⟩, ⟨65, 65, tr631⟩, ⟨67, 67, tr631⟩, ⟨71, 71, tr631⟩, ⟨78, 78, tr631⟩,
    ⟨84, 84, tr631⟩, ⟨97, 97, tr631⟩, ⟨99, 99, tr631⟩, ⟨103, 103, tr631⟩, ⟨110, 110, tr631⟩,
    ⟨116, 116, tr631⟩],
   tr629⟩

def st445 : Row := ⟨[⟨9, 9, tr591⟩, ⟨10, 10, tr592⟩, ⟨59, 59, tr593⟩], tr629⟩

def st446 : Row :=
  ⟨[⟨9, 9, tr591⟩, ⟨10, 10, tr592⟩, ⟨59, 59, tr593⟩, ⟨65, 65, tr631⟩, ⟨67, 67, tr631⟩,
    ⟨71, 71, tr631⟩, ⟨78, 78, tr631⟩, ⟨84, 84, tr631⟩, ⟨97, 97, tr631⟩, ⟨99, 99, tr631⟩,
    ⟨103, 103, tr631⟩, ⟨110, 110, tr631⟩, ⟨116, 116, tr631⟩],
   tr629⟩

def st447 : Row := ⟨[⟨61, 61, tr632⟩, ⟨60, 126, tr590⟩, ⟨33, 58, tr590⟩], tr574⟩

def st448 : Row := ⟨[⟨45, 45, tr634⟩, ⟨48, 57, tr635⟩], tr633⟩

def st449 : Row := ⟨[⟨48, 57, tr635⟩], tr633⟩

def st450 : Row :=
  ⟨[⟨9, 9, tr591⟩, ⟨10, 10, tr592⟩, ⟨44, 44, tr632⟩, ⟨59, 59, tr593⟩, ⟨48, 57, tr635⟩],
   tr633⟩

def st451 : Row := ⟨[⟨61, 61, tr636⟩, ⟨60, 126, tr590⟩, ⟨33, 58, tr590⟩], tr574⟩

def st452 : Row := ⟨[⟨45, 45, tr638⟩, ⟨48, 48, tr639⟩, ⟨49, 57, tr640⟩], tr637⟩

def st453 : Row := ⟨[⟨48, 48, tr639⟩, ⟨49, 57, tr640⟩], tr637⟩

def st454 : Row :=
  ⟨[⟨9, 9, tr591⟩, ⟨10, 10, tr592⟩, ⟨44, 44, tr636⟩, ⟨46, 46, tr641⟩, ⟨59, 59, tr593⟩,
    ⟨69, 69, tr642⟩, ⟨101, 101, tr642⟩],
   tr637⟩

def st455 : Row := ⟨[⟨48, 57, tr643⟩], tr637⟩

def st456 : Row :=
  ⟨[⟨9, 9, tr591⟩, ⟨10, 10, tr592⟩, ⟨44, 44, tr636⟩, ⟨59, 59, tr593⟩, ⟨69, 69, tr642⟩,
    ⟨101, 101, tr642⟩, ⟨48, 57, tr643⟩],
   tr637⟩

def st457 : Row := ⟨[⟨43, 43, tr644⟩, ⟨45, 45, tr644⟩, ⟨48, 57, tr645⟩], tr637⟩

def st458 : Row := ⟨[⟨48, 57, tr645⟩], tr637⟩

def st459 : Row :=
  ⟨[⟨9, 9, tr591⟩, ⟨10, 10, tr592⟩, ⟨44, 44, tr636⟩, ⟨59, 59, tr593⟩, ⟨48, 57, tr645⟩],
   tr637⟩

def st460 : Row :=
  ⟨[⟨9, 9, tr591⟩, ⟨10, 10, tr592⟩, ⟨44, 44, tr636⟩, ⟨46, 46, tr641⟩, ⟨59, 59, tr593⟩,
    ⟨69, 69, tr642⟩, ⟨101, 101, tr642⟩, ⟨48, 57, tr640⟩],
   tr637⟩

def st461 : Row := ⟨[⟨61, 61, tr646⟩, ⟨60, 126, tr590⟩, ⟨33, 58, tr590⟩], tr574⟩

def st462 : Row := ⟨[⟨45, 45, tr648⟩, ⟨48, 57, tr649⟩], tr647⟩

def st463 : Row := ⟨[⟨48, 57, tr649⟩], tr647⟩

def st464 : Row :=
  ⟨[⟨9, 9, tr591⟩, ⟨10, 10, tr592⟩, ⟨59, 59, tr593⟩, ⟨48, 57, tr649⟩],
   tr647⟩

def st465 : Row :=
  ⟨[⟨9, 9, tr591⟩, ⟨10, 10, tr592⟩, ⟨59, 59, tr593⟩, ⟨61, 61, tr594⟩, ⟨81, 81, tr650⟩,
    ⟨33, 126, tr590⟩],
   tr574⟩

def st466 : Row := ⟨[⟨61, 61, tr651⟩, ⟨60, 126, tr590⟩, ⟨33, 58, tr590⟩], tr574⟩

def st467 : Row := ⟨[⟨45, 45, tr653⟩, ⟨48, 48, tr654⟩, ⟨49, 57, tr655⟩], tr652⟩

def st468 : Row := ⟨[⟨48, 48, tr654⟩, ⟨49, 57, tr655⟩], tr652⟩

def st469 : Row :=
  ⟨[⟨9, 9, tr591⟩, ⟨10, 10, tr592⟩, ⟨46, 46, tr656⟩, ⟨59, 59, tr593⟩, ⟨69, 69, tr657⟩,
    ⟨101, 101, tr657⟩],
   tr652⟩

def st470 : Row := ⟨[⟨48, 57, tr658⟩], tr652⟩

def st471 : Row :=
  ⟨[⟨9, 9, tr591⟩, ⟨10, 10, tr592⟩, ⟨59, 59, tr593⟩, ⟨69, 69, tr657⟩, ⟨101, 101, tr657⟩,
    ⟨48, 57, tr658⟩],
   tr652⟩

def st472 : Row := ⟨[⟨43, 43, tr659⟩, ⟨45, 45, tr659⟩, ⟨48, 57, tr660⟩], tr652⟩

def st473 : Row := ⟨[⟨48, 57, tr660⟩], tr652⟩

def st474 : Row :=
  ⟨[⟨9, 9, tr591⟩, ⟨10, 10, tr592⟩, ⟨59, 59, tr593⟩, ⟨48, 57, tr660⟩],
   tr652⟩

def st475 : Row :=
  ⟨[⟨9, 9, tr591⟩, ⟨10, 10, tr592⟩, ⟨46, 46, tr656⟩, ⟨59, 59, tr593⟩, ⟨69, 69, tr657⟩,
    ⟨101, 101, tr657⟩, ⟨48, 57, tr655⟩],
   tr652⟩

def st476 : Row :=
  ⟨[⟨9, 9, tr591⟩, ⟨10, 10, tr592⟩, ⟨59, 59, tr593⟩, ⟨61, 61, tr594⟩, ⟨73, 73, tr661⟩,
    ⟨33, 126, tr590⟩],
   tr574⟩

def st477 : Row :=
  ⟨[⟨9, 9, tr591⟩, ⟨10, 10, tr592⟩, ⟨59, 59, tr593⟩, ⟨61, 61, tr594⟩, ⟨71, 71, tr662⟩,
    ⟨33, 126, tr590⟩],
   tr574⟩

def st478 : Row :=
  ⟨[⟨9, 9, tr591⟩, ⟨10, 10, tr592⟩, ⟨59, 59, tr593⟩, ⟨61, 61, tr594⟩, ⟨65, 65, tr663⟩,
    ⟨33, 126, tr590⟩],
   tr574⟩

def st479 : Row :=
  ⟨[⟨9, 9, tr591⟩, ⟨10, 10, tr592⟩, ⟨59, 59, tr593⟩, ⟨61, 61, tr594⟩, ⟨82, 82, tr664⟩,
    ⟨33, 126, tr590⟩],
   tr574⟩

def st480 : Row := ⟨[⟨61, 61, tr665⟩, ⟨60, 126, tr590⟩, ⟨33, 58, tr590⟩], tr574⟩

def st481 : Row := ⟨[⟨48, 57, tr667⟩, ⟨97, 122, tr667⟩, ⟨65, 90, tr667⟩], tr666⟩

def st482 : Row :=
  ⟨[⟨9, 9, tr591⟩, ⟨10, 10, tr592⟩, ⟨59, 59, tr593⟩, ⟨48, 57, tr667⟩, ⟨97, 122, tr667⟩,
    ⟨65, 90, tr667⟩],
   tr666⟩

def st483 : Row :=
  ⟨[⟨9, 9, tr591⟩, ⟨10, 10, tr592⟩, ⟨59, 59, tr593⟩, ⟨61, 61, tr594⟩, ⟨66, 66, tr668⟩,
    ⟨80, 80, tr669⟩, ⟨33, 126, tr590⟩],
   tr574⟩

def st484 : Row :=
  ⟨[⟨9, 9, tr591⟩, ⟨10, 10, tr592⟩, ⟨59, 59, tr593⟩, ⟨61, 61, tr671⟩, ⟨33, 126, tr590⟩],
   tr670⟩

def st485 : Row := ⟨[⟨48, 49, tr673⟩], tr672⟩

def st486 : Row := ⟨[⟨9, 9, tr591⟩, ⟨10, 10, tr592⟩, ⟨59, 59, tr593⟩], tr672⟩

def st487 : Row := ⟨[⟨61, 61, tr674⟩, ⟨60, 126, tr590⟩, ⟨33, 58, tr590⟩], tr574⟩

def st488 : Row := ⟨[⟨45, 45, tr676⟩, ⟨48, 57, tr677⟩], tr675⟩

def st489 : Row := ⟨[⟨48, 57, tr677⟩], tr675⟩

def st490 : Row :=
  ⟨[⟨9, 9, tr591⟩, ⟨10, 10, tr592⟩, ⟨59, 59, tr593⟩, ⟨48, 57, tr677⟩],
   tr675⟩

def st491 : Row :=
  ⟨[⟨9, 9, tr591⟩, ⟨10, 10, tr592⟩, ⟨59, 59, tr593⟩, ⟨61, 61, tr594⟩, ⟨78, 78, tr678⟩,
    ⟨33, 126, tr590⟩],
   tr574⟩

def st492 : Row :=
  ⟨[⟨9, 9, tr591⟩, ⟨10, 10, tr592⟩, ⟨59, 59, tr593⟩, ⟨61, 61, tr594⟩, ⟨68, 68, tr679⟩,
    ⟨33, 126, tr590⟩],
   tr574⟩

def st493 : Row := ⟨[⟨61, 61, tr680⟩, ⟨60, 126, tr590⟩, ⟨33, 58, tr590⟩], tr574⟩

def st494 : Row := ⟨[⟨45, 45, tr682⟩, ⟨48, 57, tr683⟩], tr681⟩

def st495 : Row := ⟨[⟨48, 57, tr683⟩], tr681⟩

def st496 : Row :=
  ⟨[⟨9, 9, tr591⟩, ⟨10, 10, tr592⟩, ⟨59, 59, tr593⟩, ⟨48, 57, tr683⟩],
   tr681⟩

def st497 : Row :=
  ⟨[⟨9, 9, tr591⟩, ⟨10, 10, tr592⟩, ⟨50, 50, tr684⟩, ⟨51, 51, tr685⟩, ⟨59, 59, tr593⟩,
    ⟨61, 61, tr594⟩, ⟨33, 126, tr590⟩],
   tr574⟩

def st498 : Row :=
  ⟨[⟨9, 9, tr591⟩, ⟨10, 10, tr592⟩, ⟨59, 59, tr593⟩, ⟨61, 61, tr687⟩, ⟨33, 126, tr590⟩],
   tr686⟩

def st499 : Row := ⟨[⟨48, 49, tr689⟩], tr688⟩

def st500 : Row := ⟨[⟨9, 9, tr591⟩, ⟨10, 10, tr592⟩, ⟨59, 59, tr593⟩], tr688⟩

def st501 : Row :=
  ⟨[⟨9, 9, tr591⟩, ⟨10, 10, tr592⟩, ⟨59, 59, tr593⟩, ⟨61, 61, tr691⟩, ⟨33, 126, tr590⟩],
   tr690⟩

def st502 : Row := ⟨[⟨48, 49, tr693⟩], tr692⟩

def st503 : Row := ⟨[⟨9, 9, tr591⟩, ⟨10, 10, tr592⟩, ⟨59, 59, tr593⟩], tr692⟩

def st504 : Row :=
  ⟨[⟨9, 9, tr591⟩, ⟨10, 10, tr592⟩, ⟨59, 59, tr593⟩, ⟨61, 61, tr594⟩, ⟨81, 81, tr694⟩,
    ⟨33, 126, tr590⟩],
   tr574⟩

def st505 : Row :=
  ⟨[⟨48, 48, tr695⟩, ⟨61, 61, tr696⟩, ⟨60, 126, tr590⟩, ⟨33, 58, tr590⟩],
   tr574⟩

def st506 : Row := ⟨[⟨61, 61, tr697⟩, ⟨60, 126, tr590⟩, ⟨33, 58, tr590⟩], tr574⟩

def st507 : Row := ⟨[⟨45, 45, tr699⟩, ⟨48, 57, tr700⟩], tr698⟩

def st508 : Row := ⟨[⟨48, 57, tr700⟩], tr698⟩

def st509 : Row :=
  ⟨[⟨9, 9, tr591⟩, ⟨10, 10, tr592⟩, ⟨59, 59, tr593⟩, ⟨48, 57, tr700⟩],
   tr698⟩

def st510 : Row := ⟨[⟨45, 45, tr702⟩, ⟨48, 48, tr703⟩, ⟨49, 57, tr704⟩], tr701⟩

def st511 : Row := ⟨[⟨48, 48, tr703⟩, ⟨49, 57, tr704⟩], tr701⟩

def st512 : Row :=
  ⟨[⟨9, 9, tr591⟩, ⟨10, 10, tr592⟩, ⟨46, 46, tr705⟩, ⟨59, 59, tr593⟩, ⟨69, 69, tr706⟩,
    ⟨101, 101, tr706⟩],
   tr701⟩

def st513 : Row := ⟨[⟨48, 57, tr707⟩], tr701⟩

def st514 : Row :=
  ⟨[⟨9, 9, tr591⟩, ⟨10, 10, tr592⟩, ⟨59, 59, tr593⟩, ⟨69, 69, tr706⟩, ⟨101, 101, tr706⟩,
    ⟨48, 57, tr707⟩],
   tr701⟩

def st515 : Row := ⟨[⟨43, 43, tr708⟩, ⟨45, 45, tr708⟩, ⟨48, 57, tr709⟩], tr701⟩

def st516 : Row := ⟨[⟨48, 57, tr709⟩], tr701⟩

def st517 : Row :=
  ⟨[⟨9, 9, tr591⟩, ⟨10, 10, tr592⟩, ⟨59, 59, tr593⟩, ⟨48, 57, tr709⟩],
   tr701⟩

def st518 : Row :=
  ⟨[⟨9, 9, tr591⟩, ⟨10, 10, tr592⟩, ⟨46, 46, tr705⟩, ⟨59, 59, tr593⟩, ⟨69, 69, tr706⟩,
    ⟨101, 101, tr706⟩, ⟨48, 57, tr704⟩],
   tr701⟩

def st519 : Row :=
  ⟨[⟨9, 9, tr591⟩, ⟨10, 10, tr592⟩, ⟨59, 59, tr593⟩, ⟨61, 61, tr594⟩, ⟨83, 83, tr710⟩,
    ⟨33, 126, tr590⟩],
   tr574⟩

def st520 : Row := ⟨[⟨61, 61, tr711⟩, ⟨60, 126, tr590⟩, ⟨33, 58, tr590⟩], tr574⟩

def st521 : Row := ⟨[⟨45, 45, tr713⟩, ⟨48, 57, tr714⟩], tr712⟩

def st522 : Row := ⟨[⟨48, 57, tr714⟩], tr712⟩

def st523 : Row :=
  ⟨[⟨9, 9, tr591⟩, ⟨10, 10, tr592⟩, ⟨59, 59, tr593⟩, ⟨48, 57, tr714⟩],
   tr712⟩

def st524 : Row :=
  ⟨[⟨9, 9, tr591⟩, ⟨10, 10, tr592⟩, ⟨59, 59, tr593⟩, ⟨61, 61, tr594⟩, ⟨66, 66, tr715⟩,
    ⟨79, 79, tr716⟩, ⟨33, 126, tr590⟩],
   tr574⟩

def st525 : Row := ⟨[⟨61, 61, tr717⟩, ⟨60, 126, tr590⟩, ⟨33, 58, tr590⟩], tr574⟩

def st526 : Row := ⟨[⟨45, 45, tr719⟩, ⟨48, 48, tr720⟩, ⟨49, 57, tr721⟩], tr718⟩

def st527 : Row := ⟨[⟨48, 48, tr720⟩, ⟨49, 57, tr721⟩], tr718⟩

def st528 : Row :=
  ⟨[⟨9, 9, tr591⟩, ⟨10, 10, tr592⟩, ⟨46, 46, tr722⟩, ⟨59, 59, tr593⟩, ⟨69, 69, tr723⟩,
    ⟨101, 101, tr723⟩],
   tr718⟩

def st529 : Row := ⟨[⟨48, 57, tr724⟩], tr718⟩

def st530 : Row :=
  ⟨[⟨9, 9, tr591⟩, ⟨10, 10, tr592⟩, ⟨59, 59, tr593⟩, ⟨69, 69, tr723⟩, ⟨101, 101, tr723⟩,
    ⟨48, 57, tr724⟩],
   tr718⟩

def st531 : Row := ⟨[⟨43, 43, tr725⟩, ⟨45, 45, tr725⟩, ⟨48, 57, tr726⟩], tr718⟩

def st532 : Row := ⟨[⟨48, 57, tr726⟩], tr718⟩

def st533 : Row :=
  ⟨[⟨9, 9, tr591⟩, ⟨10, 10, tr592⟩, ⟨59, 59, tr593⟩, ⟨48, 57, tr726⟩],
   tr718⟩

def st534 : Row :=
  ⟨[⟨9, 9, tr591⟩, ⟨10, 10, tr592⟩, ⟨46, 46, tr722⟩, ⟨59, 59, tr593⟩, ⟨69, 69, tr723⟩,
    ⟨101, 101, tr723⟩, ⟨48, 57, tr721⟩],
   tr718⟩

def st535 : Row :=
  ⟨[⟨9, 9, tr591⟩, ⟨10, 10, tr592⟩, ⟨59, 59, tr593⟩, ⟨61, 61, tr594⟩, ⟨77, 77, tr727⟩,
    ⟨33, 126, tr590⟩],
   tr574⟩

def st536 : Row :=
  ⟨[⟨9, 9, tr591⟩, ⟨10, 10, tr592⟩, ⟨59, 59, tr593⟩, ⟨61, 61, tr594⟩, ⟨65, 65, tr728⟩,
    ⟨33, 126, tr590⟩],
   tr574⟩

def st537 : Row :=
  ⟨[⟨9, 9, tr591⟩, ⟨10, 10, tr592⟩, ⟨59, 59, tr593⟩, ⟨61, 61, tr594⟩, ⟨84, 84, tr729⟩,
    ⟨33, 126, tr590⟩],
   tr574⟩

def st538 : Row :=
  ⟨[⟨9, 9, tr591⟩, ⟨10, 10, tr592⟩, ⟨59, 59, tr593⟩, ⟨61, 61, tr594⟩, ⟨73, 73, tr730⟩,
    ⟨33, 126, tr590⟩],
   tr574⟩

def st539 : Row :=
  ⟨[⟨9, 9, tr591⟩, ⟨10, 10, tr592⟩, ⟨59, 59, tr593⟩, ⟨61, 61, tr594⟩, ⟨67, 67, tr731⟩,
    ⟨33, 126, tr590⟩],
   tr574⟩

def st540 : Row :=
  ⟨[⟨9, 9, tr591⟩, ⟨10, 10, tr592⟩, ⟨59, 59, tr593⟩, ⟨61, 61, tr733⟩, ⟨33, 126, tr590⟩],
   tr732⟩

def st541 : Row := ⟨[⟨48, 49, tr735⟩], tr734⟩

def st542 : Row := ⟨[⟨9, 9, tr591⟩, ⟨10, 10, tr592⟩, ⟨59, 59, tr593⟩], tr734⟩

def st543 : Row :=
  ⟨[⟨9, 9, tr591⟩, ⟨10, 10, tr592⟩, ⟨59, 59, tr593⟩, ⟨61, 61, tr594⟩, ⟨65, 65, tr736⟩,
    ⟨33, 126, tr590⟩],
   tr574⟩

def st544 : Row :=
  ⟨[⟨9, 9, tr591⟩, ⟨10, 10, tr592⟩, ⟨59, 59, tr593⟩, ⟨61, 61, tr594⟩, ⟨76, 76, tr737⟩,
    ⟨33, 126, tr590⟩],
   tr574⟩

def st545 : Row :=
  ⟨[⟨9, 9, tr591⟩, ⟨10, 10, tr592⟩, ⟨59, 59, tr593⟩, ⟨61, 61, tr594⟩, ⟨73, 73, tr738⟩,
    ⟨33, 126, tr590⟩],
   tr574⟩

def st546 : Row :=
  ⟨[⟨9, 9, tr591⟩, ⟨10, 10, tr592⟩, ⟨59, 59, tr593⟩, ⟨61, 61, tr594⟩, ⟨68, 68, tr739⟩,
    ⟨33, 126, tr590⟩],
   tr574⟩

def st547 : Row :=
  ⟨[⟨9, 9, tr591⟩, ⟨10, 10, tr592⟩, ⟨59, 59, tr593⟩, ⟨61, 61, tr594⟩, ⟨65, 65, tr740⟩,
    ⟨33, 126, tr590⟩],
   tr574⟩

def st548 : Row :=
  ⟨[⟨9, 9, tr591⟩, ⟨10, 10, tr592⟩, ⟨59, 59, tr593⟩, ⟨61, 61, tr594⟩, ⟨84, 84, tr741⟩,
    ⟨33, 126, tr590⟩],
   tr574⟩

def st549 : Row :=
  ⟨[⟨9, 9, tr591⟩, ⟨10, 10, tr592⟩, ⟨59, 59, tr593⟩, ⟨61, 61, tr594⟩, ⟨69, 69, tr742⟩,
    ⟨33, 126, tr590⟩],
   tr574⟩

def st550 : Row :=
  ⟨[⟨9, 9, tr591⟩, ⟨10, 10, tr592⟩, ⟨59, 59, tr593⟩, ⟨61, 61, tr594⟩, ⟨68, 68, tr743⟩,
    ⟨33, 126, tr590⟩],
   tr574⟩

def st551 : Row :=
  ⟨[⟨9, 9, tr591⟩, ⟨10, 10, tr592⟩, ⟨59, 59, tr593⟩, ⟨61, 61, tr745⟩, ⟨33, 126, tr590⟩],
   tr744⟩

def st552 : Row := ⟨[⟨48, 49, tr747⟩], tr746⟩

def st553 : Row := ⟨[⟨9, 9, tr591⟩, ⟨10, 10, tr592⟩, ⟨59, 59, tr593⟩], tr746⟩

def st554 : Row :=
  ⟨[⟨9, 9, tr591⟩, ⟨10, 10, tr592⟩, ⟨58, 58, tr589⟩, ⟨60, 60, tr589⟩, ⟨33, 47, tr589⟩,
    ⟨62, 64, tr589⟩, ⟨48, 57, tr590⟩, ⟨91, 96, tr589⟩, ⟨123, 126, tr589⟩, ⟨97, 122, tr590⟩,
    ⟨65, 90, tr590⟩],
   tr574⟩

def st555 : Row :=
  ⟨[⟨58, 58, tr567⟩, ⟨33, 47, tr567⟩, ⟨60, 64, tr567⟩, ⟨48, 57, tr569⟩, ⟨91, 96, tr567⟩,
    ⟨123, 126, tr567⟩, ⟨97, 122, tr569⟩, ⟨65, 90, tr569⟩],
   tr566⟩

def st556 : Row :=
  ⟨[⟨9, 9, tr572⟩, ⟨58, 58, go 414⟩, ⟨33, 47, go 414⟩, ⟨60, 64, go 414⟩, ⟨48, 57, tr571⟩,
    ⟨91, 96, go 414⟩, ⟨123, 126, go 414⟩, ⟨97, 122, tr571⟩, ⟨65, 90, tr571⟩],
   tr566⟩

def st557 : Row := ⟨[⟨48, 57, tr748⟩], tr556⟩

def st558 : Row :=
  ⟨[⟨9, 9, tr563⟩, ⟨69, 69, tr565⟩, ⟨101, 101, tr565⟩, ⟨48, 57, tr748⟩],
   tr556⟩

def st559 : Row := ⟨[⟨43, 43, tr749⟩, ⟨45, 45, tr749⟩, ⟨48, 57, tr750⟩], tr556⟩

def st560 : Row := ⟨[⟨48, 57, tr750⟩], tr556⟩

def st561 : Row := ⟨[⟨9, 9, tr563⟩, ⟨48, 57, tr750⟩], tr556⟩

def st562 : Row :=
  ⟨[⟨9, 9, tr563⟩, ⟨46, 46, tr564⟩, ⟨69, 69, tr565⟩, ⟨101, 101, tr565⟩, ⟨48, 57, tr562⟩],
   tr556⟩

def st563 : Row := ⟨[⟨9, 9, tr563⟩], tr556⟩

def st564 : Row :=
  ⟨[⟨42, 42, tr548⟩, ⟨46, 46, tr751⟩, ⟨60, 60, tr550⟩, ⟨65, 65, tr551⟩, ⟨67, 67, tr551⟩,
    ⟨71, 71, tr551⟩, ⟨78, 78, tr551⟩, ⟨84, 84, tr551⟩, ⟨91, 91, tr552⟩, ⟨93, 93, tr553⟩,
    ⟨97, 97, tr551⟩, ⟨99, 99, tr551⟩, ⟨103, 103, tr551⟩, ⟨110, 110, tr551⟩, ⟨116, 116, tr551⟩],
   tr547⟩

def st565 : Row :=
  ⟨[⟨65, 65, tr752⟩, ⟨67, 67, tr752⟩, ⟨71, 71, tr752⟩, ⟨78, 78, tr752⟩, ⟨84, 84, tr752⟩,
    ⟨97, 97, tr752⟩, ⟨99, 99, tr752⟩, ⟨103, 103, tr752⟩, ⟨110, 110, tr752⟩, ⟨116, 116, tr752⟩],
   tr547⟩

def st566 : Row :=
  ⟨[⟨9, 9, tr554⟩, ⟨44, 44, tr555⟩, ⟨65, 65, tr752⟩, ⟨67, 67, tr752⟩, ⟨71, 71, tr752⟩,
    ⟨78, 78, tr752⟩, ⟨84, 84, tr752⟩, ⟨97, 97, tr752⟩, ⟨99, 99, tr752⟩, ⟨103, 103, tr752⟩,
    ⟨110, 110, tr752⟩, ⟨116, 116, tr752⟩],
   tr547⟩

def st567 : Row :=
  ⟨[⟨58, 58, tr754⟩, ⟨95, 95, tr754⟩, ⟨48, 57, tr753⟩, ⟨97, 122, tr753⟩, ⟨65, 90, tr753⟩],
   tr547⟩

def st568 : Row :=
  ⟨[⟨62, 62, tr755⟩, ⟨95, 95, tr753⟩, ⟨48, 58, tr753⟩, ⟨97, 122, tr753⟩, ⟨65, 90, tr753⟩],
   tr547⟩

def st569 : Row :=
  ⟨[⟨9, 9, tr554⟩, ⟨44, 44, tr555⟩, ⟨46, 46, tr755⟩, ⟨65, 65, tr756⟩, ⟨67, 67, tr756⟩,
    ⟨71, 71, tr756⟩, ⟨78, 78, tr756⟩, ⟨84, 84, tr756⟩, ⟨91, 91, tr757⟩, ⟨93, 93, tr758⟩,
    ⟨97, 97, tr756⟩, ⟨99, 99, tr756⟩, ⟨103, 103, tr756⟩, ⟨110, 110, tr756⟩, ⟨116, 116, tr756⟩],
   tr547⟩

def st570 : Row :=
  ⟨[⟨60, 60, tr760⟩, ⟨48, 57, tr759⟩, ⟨97, 122, tr759⟩, ⟨65, 90, tr759⟩],
   tr547⟩

def st571 : Row :=
  ⟨[⟨58, 58, tr763⟩, ⟨59, 59, tr761⟩, ⟨61, 61, tr761⟩, ⟨33, 47, tr761⟩, ⟨63, 64, tr761⟩,
    ⟨48, 57, tr762⟩, ⟨91, 96, tr761⟩, ⟨123, 126, tr761⟩, ⟨97, 122, tr762⟩, ⟨65, 90, tr762⟩],
   tr547⟩

def st572 : Row :=
  ⟨[⟨59, 59, tr761⟩, ⟨61, 61, tr761⟩, ⟨33, 47, tr761⟩, ⟨63, 64, tr761⟩, ⟨48, 57, tr762⟩,
    ⟨91, 96, tr761⟩, ⟨123, 126, tr761⟩, ⟨97, 122, tr762⟩, ⟨65, 90, tr762⟩],
   tr547⟩

def st573 : Row :=
  ⟨[⟨58, 58, tr763⟩, ⟨61, 61, tr762⟩, ⟨63, 126, tr762⟩, ⟨33, 59, tr762⟩],
   tr547⟩

def st574 : Row := ⟨[⟨45, 45, tr764⟩, ⟨48, 57, tr765⟩], tr547⟩

def st575 : Row := ⟨[⟨48, 57, tr765⟩], tr547⟩

def st576 : Row := ⟨[⟨91, 91, tr755⟩, ⟨48, 57, tr765⟩], tr547⟩

def st577 : Row := ⟨[⟨48, 57, tr766⟩, ⟨97, 122, tr766⟩, ⟨65, 90, tr766⟩], tr547⟩

def st578 : Row :=
  ⟨[⟨59, 59, tr767⟩, ⟨62, 62, tr769⟩, ⟨33, 47, tr767⟩, ⟨61, 64, tr767⟩, ⟨48, 57, tr768⟩,
    ⟨91, 96, tr767⟩, ⟨123, 126, tr767⟩, ⟨97, 122, tr768⟩, ⟨65, 90, tr768⟩],
   tr547⟩

def st579 : Row :=
  ⟨[⟨59, 59, tr767⟩, ⟨61, 61, tr767⟩, ⟨33, 47, tr767⟩, ⟨63, 64, tr767⟩, ⟨48, 57, tr768⟩,
    ⟨91, 96, tr767⟩, ⟨123, 126, tr767⟩, ⟨97, 122, tr768⟩, ⟨65, 90, tr768⟩],
   tr547⟩

def st580 : Row :=
  ⟨[⟨59, 59, tr768⟩, ⟨62, 62, tr769⟩, ⟨61, 126, tr768⟩, ⟨33, 57, tr768⟩],
   tr547⟩

def st581 : Row := ⟨[⟨58, 58, tr763⟩], tr547⟩

def st582 : Row :=
  ⟨[⟨60, 60, tr771⟩, ⟨48, 57, tr770⟩, ⟨97, 122, tr770⟩, ⟨65, 90, tr770⟩],
   tr547⟩

def st583 : Row :=
  ⟨[⟨58, 58, tr774⟩, ⟨59, 59, tr772⟩, ⟨61, 61, tr772⟩, ⟨33, 47, tr772⟩, ⟨63, 64, tr772⟩,
    ⟨48, 57, tr773⟩, ⟨91, 96, tr772⟩, ⟨123, 126, tr772⟩, ⟨97, 122, tr773⟩, ⟨65, 90, tr773⟩],
   tr547⟩

def st584 : Row :=
  ⟨[⟨59, 59, tr772⟩, ⟨61, 61, tr772⟩, ⟨33, 47, tr772⟩, ⟨63, 64, tr772⟩, ⟨48, 57, tr773⟩,
    ⟨91, 96, tr772⟩, ⟨123, 126, tr772⟩, ⟨97, 122, tr773⟩, ⟨65, 90, tr773⟩],
   tr547⟩

def st585 : Row :=
  ⟨[⟨58, 58, tr774⟩, ⟨61, 61, tr773⟩, ⟨63, 126, tr773⟩, ⟨33, 59, tr773⟩],
   tr547⟩

def st586 : Row := ⟨[⟨45, 45, tr775⟩, ⟨48, 57, tr776⟩], tr547⟩

def st587 : Row := ⟨[⟨48, 57, tr776⟩], tr547⟩

def st588 : Row := ⟨[⟨93, 93, tr755⟩, ⟨48, 57, tr776⟩], tr547⟩

def st589 : Row := ⟨[⟨48, 57, tr777⟩, ⟨97, 122, tr777⟩, ⟨65, 90, tr777⟩], tr547⟩

def st590 : Row :=
  ⟨[⟨59, 59, tr778⟩, ⟨62, 62, tr780⟩, ⟨33, 47, tr778⟩, ⟨61, 64, tr778⟩, ⟨48, 57, tr779⟩,
    ⟨91, 96, tr778⟩, ⟨123, 126, tr778⟩, ⟨97, 122, tr779⟩, ⟨65, 90, tr779⟩],
   tr547⟩

def st591 : Row :=
  ⟨[⟨59, 59, tr778⟩, ⟨61, 61, tr778⟩, ⟨33, 47, tr778⟩, ⟨63, 64, tr778⟩, ⟨48, 57, tr779⟩,
    ⟨91, 96, tr778⟩, ⟨123, 126, tr778⟩, ⟨97, 122, tr779⟩, ⟨65, 90, tr779⟩],
   tr547⟩

def st592 : Row :=
  ⟨[⟨59, 59, tr779⟩, ⟨62, 62, tr780⟩, ⟨61, 126, tr779⟩, ⟨33, 57, tr779⟩],
   tr547⟩

def st593 : Row := ⟨[⟨58, 58, tr774⟩], tr547⟩

def st594 : Row :=
  ⟨[⟨60, 60, tr782⟩, ⟨48, 57, tr781⟩, ⟨97, 122, tr781⟩, ⟨65, 90, tr781⟩],
   tr547⟩

def st595 : Row :=
  ⟨[⟨58, 58, tr785⟩, ⟨59, 59, tr783⟩, ⟨61, 61, tr783⟩, ⟨33, 47, tr783⟩, ⟨63, 64, tr783⟩,
    ⟨48, 57, tr784⟩, ⟨91, 96, tr783⟩, ⟨123, 126, tr783⟩, ⟨97, 122, tr784⟩, ⟨65, 90, tr784⟩],
   tr547⟩

def st596 : Row :=
  ⟨[⟨59, 59, tr783⟩, ⟨61, 61, tr783⟩, ⟨33, 47, tr783⟩, ⟨63, 64, tr783⟩, ⟨48, 57, tr784⟩,
    ⟨91, 96, tr783⟩, ⟨123, 126, tr783⟩, ⟨97, 122, tr784⟩, ⟨65, 90, tr784⟩],
   tr547⟩

def st597 : Row :=
  ⟨[⟨58, 58, tr785⟩, ⟨61, 61, tr784⟩, ⟨63, 126, tr784⟩, ⟨33, 59, tr784⟩],
   tr547⟩

def st598 : Row := ⟨[⟨45, 45, tr786⟩, ⟨48, 57, tr787⟩], tr547⟩

def st599 : Row := ⟨[⟨48, 57, tr787⟩], tr547⟩

def st600 : Row := ⟨[⟨91, 91, tr788⟩, ⟨48, 57, tr787⟩], tr547⟩

def st601 : Row := ⟨[⟨48, 57, tr789⟩, ⟨97, 122, tr789⟩, ⟨65, 90, tr789⟩], tr547⟩

def st602 : Row :=
  ⟨[⟨59, 59, tr790⟩, ⟨62, 62, tr792⟩, ⟨33, 47, tr790⟩, ⟨61, 64, tr790⟩, ⟨48, 57, tr791⟩,
    ⟨91, 96, tr790⟩, ⟨123, 126, tr790⟩, ⟨97, 122, tr791⟩, ⟨65, 90, tr791⟩],
   tr547⟩

def st603 : Row :=
  ⟨[⟨59, 59, tr790⟩, ⟨61, 61, tr790⟩, ⟨33, 47, tr790⟩, ⟨63, 64, tr790⟩, ⟨48, 57, tr791⟩,
    ⟨91, 96, tr790⟩, ⟨123, 126, tr790⟩, ⟨97, 122, tr791⟩, ⟨65, 90, tr791⟩],
   tr547⟩

def st604 : Row :=
  ⟨[⟨59, 59, tr791⟩, ⟨62, 62, tr792⟩, ⟨61, 126, tr791⟩, ⟨33, 57, tr791⟩],
   tr547⟩

def st605 : Row := ⟨[⟨58, 58, tr785⟩], tr547⟩

def st606 : Row :=
  ⟨[⟨60, 60, tr794⟩, ⟨48, 57, tr793⟩, ⟨97, 122, tr793⟩, ⟨65, 90, tr793⟩],
   tr547⟩

def st607 : Row :=
  ⟨[⟨58, 58, tr797⟩, ⟨59, 59, tr795⟩, ⟨61, 61, tr795⟩, ⟨33, 47, tr795⟩, ⟨63, 64, tr795⟩,
    ⟨48, 57, tr796⟩, ⟨91, 96, tr795⟩, ⟨123, 126, tr795⟩, ⟨97, 122, tr796⟩, ⟨65, 90, tr796⟩],
   tr547⟩

def st608 : Row :=
  ⟨[⟨59, 59, tr795⟩, ⟨61, 61, tr795⟩, ⟨33, 47, tr795⟩, ⟨63, 64, tr795⟩, ⟨48, 57, tr796⟩,
    ⟨91, 96, tr795⟩, ⟨123, 126, tr795⟩, ⟨97, 122, tr796⟩, ⟨65, 90, tr796⟩],
   tr547⟩

def st609 : Row :=
  ⟨[⟨58, 58, tr797⟩, ⟨61, 61, tr796⟩, ⟨63, 126, tr796⟩, ⟨33, 59, tr796⟩],
   tr547⟩

def st610 : Row := ⟨[⟨45, 45, tr798⟩, ⟨48, 57, tr799⟩], tr547⟩

def st611 : Row := ⟨[⟨48, 57, tr799⟩], tr547⟩

def st612 : Row := ⟨[⟨93, 93, tr788⟩, ⟨48, 57, tr799⟩], tr547⟩

def st613 : Row := ⟨[⟨48, 57, tr800⟩, ⟨97, 122, tr800⟩, ⟨65, 90, tr800⟩], tr547⟩

def st614 : Row :=
  ⟨[⟨59, 59, tr801⟩, ⟨62, 62, tr803⟩, ⟨33, 47, tr801⟩, ⟨61, 64, tr801⟩, ⟨48, 57, tr802⟩,
    ⟨91, 96, tr801⟩, ⟨123, 126, tr801⟩, ⟨97, 122, tr802⟩, ⟨65, 90, tr802⟩],
   tr547⟩

def st615 : Row :=
  ⟨[⟨59, 59, tr801⟩, ⟨61, 61, tr801⟩, ⟨33, 47, tr801⟩, ⟨63, 64, tr801⟩, ⟨48, 57, tr802⟩,
    ⟨91, 96, tr801⟩, ⟨123, 126, tr801⟩, ⟨97, 122, tr802⟩, ⟨65, 90, tr802⟩],
   tr547⟩

def st616 : Row :=
  ⟨[⟨59, 59, tr802⟩, ⟨62, 62, tr803⟩, ⟨61, 126, tr802⟩, ⟨33, 57, tr802⟩],
   tr547⟩

def st617 : Row := ⟨[⟨58, 58, tr797⟩], tr547⟩

def st618 : Row :=
  ⟨[⟨9, 9, tr554⟩, ⟨65, 65, tr752⟩, ⟨67, 67, tr752⟩, ⟨71, 71, tr752⟩, ⟨78, 78, tr752⟩,
    ⟨84, 84, tr752⟩, ⟨97, 97, tr752⟩, ⟨99, 99, tr752⟩, ⟨103, 103, tr752⟩, ⟨110, 110, tr752⟩,
    ⟨116, 116, tr752⟩],
   tr547⟩

def st619 : Row :=
  ⟨[⟨59, 59, tr531⟩, ⟨61, 61, tr531⟩, ⟨33, 47, tr531⟩, ⟨63, 64, tr531⟩, ⟨48, 57, tr532⟩,
    ⟨91, 96, tr531⟩, ⟨123, 126, tr531⟩, ⟨97, 122, tr532⟩, ⟨65, 90, tr532⟩],
   tr529⟩

def st620 : Row :=
  ⟨[⟨9, 9, tr530⟩, ⟨59, 59, tr532⟩, ⟨61, 61, tr532⟩, ⟨63, 126, tr532⟩, ⟨33, 57, tr532⟩],
   tr529⟩

def st622 : Row := ⟨[⟨10, 10, tr807⟩], go 622⟩

def st623 : Row :=
  ⟨[⟨60, 60, go 423⟩, ⟨48, 57, tr809⟩, ⟨97, 122, tr809⟩, ⟨65, 90, tr809⟩],
   tr808⟩

def st624 : Row :=
  ⟨[⟨60, 60, go 423⟩, ⟨48, 57, tr809⟩, ⟨97, 122, tr809⟩, ⟨65, 90, tr809⟩],
   tr529⟩

def st625 : Row := ⟨[], go 0⟩

def st626 : Row := ⟨[], go 0⟩

end VcfValidator.Scanner
