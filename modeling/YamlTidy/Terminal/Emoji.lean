import YamlTidy.Text.Case
import YamlTidy.Text.Blank
import YamlTidy.Text.Lines

/-!
# Emoji by name

A name between two colons stands for an emoji.  A name that ends in a hyphen and one of the words
emoji and text asks for that form.  Both colons of an unknown name are used up, and a name never has
blanks.

Main definitions: `emoji?`, the emoji of a name, and `emojify`, which puts them in.
-/

namespace YamlTidy
namespace Terminal

open Text

/-- Names with their emoji behind an equals sign, a row for each and a few rows in each text. -/
def emojiRows : List String := [
  "+1=👍\n-1=👎\n100=💯\n1234=🔢\n1st_place_medal=🥇\n2nd_place_medal=🥈",
  "3rd_place_medal=🥉\n8ball=🎱\n__1=👎\na=🅰\na_button_(blood_type)=🅰\nab=🆎",
  "ab_button_(blood_type)=🆎\nabacus=🧮\nabc=🔤\nabcd=🔡\naccept=🉑",
  "adhesive_bandage=🩹\nadmission_tickets=🎟\nadult=🧑\nadult_dark_skin_tone=🧑🏿",
  "adult_light_skin_tone=🧑🏻\nadult_medium-dark_skin_tone=🧑🏾",
  "adult_medium-light_skin_tone=🧑🏼\nadult_medium_skin_tone=🧑🏽\naerial_tramway=🚡",
  "afghanistan=🇦🇫\nairplane=✈\nairplane_arrival=🛬\nairplane_arriving=🛬",
  "airplane_departure=🛫\nalarm_clock=⏰\nalbania=🇦🇱\nalembic=⚗\nalgeria=🇩🇿",
  "alien=👽\nalien_monster=👾\nambulance=🚑\namerican_football=🏈\namerican_samoa=🇦🇸",
  "amphora=🏺\nanchor=⚓\nandorra=🇦🇩\nangel=👼\nanger=💢\nanger_symbol=💢",
  "angola=🇦🇴\nangry=😠\nangry_face=😠\nangry_face_with_horns=👿\nanguilla=🇦🇮",
  "anguished=😧\nanguished_face=😧\nant=🐜\nantarctica=🇦🇶\nantenna_bars=📶",
  "antigua_&_barbuda=🇦🇬\nanxious_face_with_sweat=😰\napple=🍎\naquarius=♒",
  "argentina=🇦🇷\naries=♈\narmenia=🇦🇲\narrow_backward=◀\narrow_double_down=⏬",
  "arrow_double_up=⏫\narrow_down=⬇\narrow_down_small=🔽\narrow_forward=▶",
  "arrow_heading_down=⤵\narrow_heading_up=⤴\narrow_left=⬅\narrow_lower_left=↙",
  "arrow_lower_right=↘\narrow_right=➡\narrow_right_hook=↪\narrow_up=⬆\narrow_up_down=↕",
  "arrow_up_small=🔼\narrow_upper_left=↖\narrow_upper_right=↗\narrows_clockwise=🔃",
  "arrows_counterclockwise=🔄\nart=🎨\narticulated_lorry=🚛\nartist_palette=🎨",
  "aruba=🇦🇼\nascension_island=🇦🇨\nastonished=😲\nastonished_face=😲",
  "athletic_shoe=👟\natm=🏧\natm_sign=🏧\natom_symbol=⚛\naustralia=🇦🇺",
  "austria=🇦🇹\nauto_rickshaw=🛺\nautomobile=🚗\navocado=🥑\naxe=🪓",
  "azerbaijan=🇦🇿\nb=🅱\nb_button_(blood_type)=🅱\nbaby=👶\nbaby_angel=👼",
  "baby_angel_dark_skin_tone=👼🏿\nbaby_angel_light_skin_tone=👼🏻",
  "baby_angel_medium-dark_skin_tone=👼🏾\nbaby_angel_medium-light_skin_tone=👼🏼",
  "baby_angel_medium_skin_tone=👼🏽\nbaby_bottle=🍼\nbaby_chick=🐤",
  "baby_dark_skin_tone=👶🏿\nbaby_light_skin_tone=👶🏻",
  "baby_medium-dark_skin_tone=👶🏾\nbaby_medium-light_skin_tone=👶🏼",
  "baby_medium_skin_tone=👶🏽\nbaby_symbol=🚼\nback=🔙\nback_arrow=🔙",
  "backhand_index_pointing_down=👇\nbackhand_index_pointing_down_dark_skin_tone=👇🏿",
  "backhand_index_pointing_down_light_skin_tone=👇🏻",
  "backhand_index_pointing_down_medium-dark_skin_tone=👇🏾",
  "backhand_index_pointing_down_medium-light_skin_tone=👇🏼",
  "backhand_index_pointing_down_medium_skin_tone=👇🏽\nbackhand_index_pointing_left=👈",
  "backhand_index_pointing_left_dark_skin_tone=👈🏿",
  "backhand_index_pointing_left_light_skin_tone=👈🏻",
  "backhand_index_pointing_left_medium-dark_skin_tone=👈🏾",
  "backhand_index_pointing_left_medium-light_skin_tone=👈🏼",
  "backhand_index_pointing_left_medium_skin_tone=👈🏽\nbackhand_index_pointing_right=👉",
  "backhand_index_pointing_right_dark_skin_tone=👉🏿",
  "backhand_index_pointing_right_light_skin_tone=👉🏻",
  "backhand_index_pointing_right_medium-dark_skin_tone=👉🏾",
  "backhand_index_pointing_right_medium-light_skin_tone=👉🏼",
  "backhand_index_pointing_right_medium_skin_tone=👉🏽\nbackhand_index_pointing_up=👆",
  "backhand_index_pointing_up_dark_skin_tone=👆🏿",
  "backhand_index_pointing_up_light_skin_tone=👆🏻",
  "backhand_index_pointing_up_medium-dark_skin_tone=👆🏾",
  "backhand_index_pointing_up_medium-light_skin_tone=👆🏼",
  "backhand_index_pointing_up_medium_skin_tone=👆🏽\nbacon=🥓\nbadger=🦡\nbadminton=🏸",
  "badminton_racquet_and_shuttlecock=🏸\nbagel=🥯\nbaggage_claim=🛄\nbaguette_bread=🥖",
  "bahamas=🇧🇸\nbahrain=🇧🇭\nbalance_scale=⚖\nbald=🦲\nbald_man=👨\u200d🦲",
  "bald_woman=👩\u200d🦲\nballet_shoes=🩰\nballoon=🎈\nballot_box_with_ballot=🗳",
  "ballot_box_with_check=☑\nbamboo=🎍\nbanana=🍌\nbangbang=‼\nbangladesh=🇧🇩",
  "banjo=🪕\nbank=🏦\nbar_chart=📊\nbarbados=🇧🇧\nbarber=💈\nbarber_pole=💈",
  "baseball=⚾\nbasket=🧺\nbasketball=🏀\nbat=🦇\nbath=🛀\nbathtub=🛁\nbattery=🔋",
  "beach_with_umbrella=🏖\nbeaming_face_with_smiling_eyes=😁\nbear=🐻\nbear_face=🐻",
  "bearded_person=🧔\nbearded_person_dark_skin_tone=🧔🏿",
  "bearded_person_light_skin_tone=🧔🏻\nbearded_person_medium-dark_skin_tone=🧔🏾",
  "bearded_person_medium-light_skin_tone=🧔🏼\nbearded_person_medium_skin_tone=🧔🏽",
  "beating_heart=💓\nbed=🛏\nbee=🐝\nbeer=🍺\nbeer_mug=🍺\nbeers=🍻\nbeetle=🐞",
  "beginner=🔰\nbelarus=🇧🇾\nbelgium=🇧🇪\nbelize=🇧🇿\nbell=🔔",
  "bell_with_slash=🔕\nbellhop_bell=🛎\nbenin=🇧🇯\nbento=🍱\nbento_box=🍱",
  "bermuda=🇧🇲\nbeverage_box=🧃\nbhutan=🇧🇹\nbicycle=🚲\nbicyclist=🚴\nbike=🚲",
  "bikini=👙\nbilled_cap=🧢\nbiohazard=☣\nbiohazard_sign=☣\nbird=🐦\nbirthday=🎂",
  "birthday_cake=🎂\nblack_circle=⚫\nblack_circle_for_record=⏺\nblack_flag=🏴",
  "black_heart=🖤\nblack_joker=🃏\nblack_large_square=⬛",
  "black_left__pointing_double_triangle_with_vertical_bar=⏮\nblack_medium-small_square=◾",
  "black_medium_small_square=◾\nblack_medium_square=◼\nblack_nib=✒",
  "black_right__pointing_double_triangle_with_vertical_bar=⏭",
  "black_right__pointing_triangle_with_double_vertical_bar=⏯\nblack_small_square=▪",
  "black_square_button=🔲\nblack_square_for_stop=⏹\nblond-haired_man=👱\u200d♂\ufe0f",
  "blond-haired_man_dark_skin_tone=👱🏿\u200d♂\ufe0f",
  "blond-haired_man_light_skin_tone=👱🏻\u200d♂\ufe0f",
  "blond-haired_man_medium-dark_skin_tone=👱🏾\u200d♂\ufe0f",
  "blond-haired_man_medium-light_skin_tone=👱🏼\u200d♂\ufe0f",
  "blond-haired_man_medium_skin_tone=👱🏽\u200d♂\ufe0f\nblond-haired_person=👱",
  "blond-haired_person_dark_skin_tone=👱🏿\nblond-haired_person_light_skin_tone=👱🏻",
  "blond-haired_person_medium-dark_skin_tone=👱🏾",
  "blond-haired_person_medium-light_skin_tone=👱🏼",
  "blond-haired_person_medium_skin_tone=👱🏽\nblond-haired_woman=👱\u200d♀\ufe0f",
  "blond-haired_woman_dark_skin_tone=👱🏿\u200d♀\ufe0f",
  "blond-haired_woman_light_skin_tone=👱🏻\u200d♀\ufe0f",
  "blond-haired_woman_medium-dark_skin_tone=👱🏾\u200d♀\ufe0f",
  "blond-haired_woman_medium-light_skin_tone=👱🏼\u200d♀\ufe0f",
  "blond-haired_woman_medium_skin_tone=👱🏽\u200d♀\ufe0f\nblossom=🌼\nblowfish=🐡",
  "blue_book=📘\nblue_car=🚙\nblue_circle=🔵\nblue_heart=💙\nblue_square=🟦\nblush=😊",
  "boar=🐗\nboat=⛵\nbolivia=🇧🇴\nbomb=💣\nbone=🦴\nbook=📖\nbookmark=🔖",
  "bookmark_tabs=📑\nbooks=📚\nboom=💥\nboot=👢\nbosnia_&_herzegovina=🇧🇦",
  "botswana=🇧🇼\nbottle_with_popping_cork=🍾\nbouquet=💐\nbouvet_island=🇧🇻",
  "bow=🙇\nbow_and_arrow=🏹\nbowl_with_spoon=🥣\nbowling=🎳\nboxing_glove=🥊\nboy=👦",
  "boy_dark_skin_tone=👦🏿\nboy_light_skin_tone=👦🏻\nboy_medium-dark_skin_tone=👦🏾",
  "boy_medium-light_skin_tone=👦🏼\nboy_medium_skin_tone=👦🏽\nbrain=🧠\nbrazil=🇧🇷",
  "bread=🍞\nbreast-feeding=🤱\nbreast-feeding_dark_skin_tone=🤱🏿",
  "breast-feeding_light_skin_tone=🤱🏻\nbreast-feeding_medium-dark_skin_tone=🤱🏾",
  "breast-feeding_medium-light_skin_tone=🤱🏼\nbreast-feeding_medium_skin_tone=🤱🏽",
  "brick=🧱\nbride_with_veil=👰\nbride_with_veil_dark_skin_tone=👰🏿",
  "bride_with_veil_light_skin_tone=👰🏻\nbride_with_veil_medium-dark_skin_tone=👰🏾",
  "bride_with_veil_medium-light_skin_tone=👰🏼\nbride_with_veil_medium_skin_tone=👰🏽",
  "bridge_at_night=🌉\nbriefcase=💼\nbriefs=🩲\nbright_button=🔆",
  "british_indian_ocean_territory=🇮🇴\nbritish_virgin_islands=🇻🇬\nbroccoli=🥦",
  "broken_heart=💔\nbroom=🧹\nbrown_circle=🟤\nbrown_heart=🤎\nbrown_square=🟫",
  "brunei=🇧🇳\nbug=🐛\nbuilding_construction=🏗\nbulb=💡\nbulgaria=🇧🇬",
  "bullet_train=🚅\nbullettrain_front=🚅\nbullettrain_side=🚄\nburkina_faso=🇧🇫",
  "burrito=🌯\nburundi=🇧🇮\nbus=🚌\nbus_stop=🚏\nbusstop=🚏\nbust_in_silhouette=👤",
  "busts_in_silhouette=👥\nbutter=🧈\nbutterfly=🦋\ncactus=🌵\ncake=🍰\ncalendar=📆",
  "call_me_hand=🤙\ncall_me_hand_dark_skin_tone=🤙🏿\ncall_me_hand_light_skin_tone=🤙🏻",
  "call_me_hand_medium-dark_skin_tone=🤙🏾\ncall_me_hand_medium-light_skin_tone=🤙🏼",
  "call_me_hand_medium_skin_tone=🤙🏽\ncalling=📲\ncambodia=🇰🇭\ncamel=🐫",
  "camera=📷\ncamera_with_flash=📸\ncameroon=🇨🇲\ncamping=🏕\ncanada=🇨🇦",
  "canary_islands=🇮🇨\ncancer=♋\ncandle=🕯\ncandy=🍬\ncanned_food=🥫\ncanoe=🛶",
  "cape_verde=🇨🇻\ncapital_abcd=🔠\ncapricorn=♑\ncar=🚗\ncard_file_box=🗃",
  "card_index=📇\ncard_index_dividers=🗂\ncaribbean_netherlands=🇧🇶\ncarousel_horse=🎠",
  "carp_streamer=🎏\ncarrot=🥕\ncastle=🏰\ncat=🐱\ncat2=🐈\ncat_face=🐱",
  "cat_face_with_tears_of_joy=😹\ncat_face_with_wry_smile=😼\ncayman_islands=🇰🇾\ncd=💿",
  "central_african_republic=🇨🇫\nceuta_&_melilla=🇪🇦\nchad=🇹🇩\nchains=⛓",
  "chair=🪑\nchart=💹\nchart_decreasing=📉\nchart_increasing=📈",
  "chart_increasing_with_yen=💹\nchart_with_downwards_trend=📉\nchart_with_upwards_trend=📈",
  "checkered_flag=🏁\ncheese_wedge=🧀\nchequered_flag=🏁\ncherries=🍒\ncherry_blossom=🌸",
  "chess_pawn=♟\nchestnut=🌰\nchicken=🐔\nchild=🧒\nchild_dark_skin_tone=🧒🏿",
  "child_light_skin_tone=🧒🏻\nchild_medium-dark_skin_tone=🧒🏾",
  "child_medium-light_skin_tone=🧒🏼\nchild_medium_skin_tone=🧒🏽\nchildren_crossing=🚸",
  "chile=🇨🇱\nchina=🇨🇳\nchipmunk=🐿\nchocolate_bar=🍫\nchopsticks=🥢",
  "christmas_island=🇨🇽\nchristmas_tree=🎄\nchurch=⛪\ncigarette=🚬\ncinema=🎦",
  "circled_m=Ⓜ\ncircus_tent=🎪\ncity_sunrise=🌇\ncity_sunset=🌆\ncityscape=🏙",
  "cityscape_at_dusk=🌆\ncl=🆑\ncl_button=🆑\nclamp=🗜\nclap=👏\nclapper=🎬",
  "clapper_board=🎬\nclapping_hands=👏\nclapping_hands_dark_skin_tone=👏🏿",
  "clapping_hands_light_skin_tone=👏🏻\nclapping_hands_medium-dark_skin_tone=👏🏾",
  "clapping_hands_medium-light_skin_tone=👏🏼\nclapping_hands_medium_skin_tone=👏🏽",
  "classical_building=🏛\nclinking_beer_mugs=🍻\nclinking_glasses=🥂\nclipboard=📋",
  "clipperton_island=🇨🇵\nclock1=🕐\nclock10=🕙\nclock1030=🕥\nclock11=🕚",
  "clock1130=🕦\nclock12=🕛\nclock1230=🕧\nclock130=🕜\nclock2=🕑\nclock230=🕝",
  "clock3=🕒\nclock330=🕞\nclock4=🕓\nclock430=🕟\nclock5=🕔\nclock530=🕠\nclock6=🕕",
  "clock630=🕡\nclock7=🕖\nclock730=🕢\nclock8=🕗\nclock830=🕣\nclock9=🕘",
  "clock930=🕤\nclockwise_vertical_arrows=🔃\nclosed_book=📕\nclosed_lock_with_key=🔐",
  "closed_mailbox_with_lowered_flag=📪\nclosed_mailbox_with_raised_flag=📫",
  "closed_umbrella=🌂\ncloud=☁\ncloud_with_lightning=🌩\ncloud_with_lightning_and_rain=⛈",
  "cloud_with_rain=🌧\ncloud_with_snow=🌨\ncloud_with_tornado=🌪\nclown_face=🤡",
  "club_suit=♣\nclubs=♣\nclutch_bag=👝\ncoat=🧥\ncocktail=🍸\ncocktail_glass=🍸",
  "coconut=🥥\ncocos_(keeling)_islands=🇨🇨\ncoffee=☕\ncoffin=⚰\ncold_face=🥶",
  "cold_sweat=😰\ncollision=💥\ncolombia=🇨🇴\ncomet=☄\ncomoros=🇰🇲\ncompass=🧭",
  "compression=🗜\ncomputer=💻\ncomputer_disk=💽\ncomputer_mouse=🖱\nconfetti_ball=🎊",
  "confounded=😖\nconfounded_face=😖\nconfused=😕\nconfused_face=😕",
  "congo_-_brazzaville=🇨🇬\ncongo_-_kinshasa=🇨🇩\ncongratulations=㊗\nconstruction=🚧",
  "construction_worker=👷\nconstruction_worker_dark_skin_tone=👷🏿",
  "construction_worker_light_skin_tone=👷🏻",
  "construction_worker_medium-dark_skin_tone=👷🏾",
  "construction_worker_medium-light_skin_tone=👷🏼",
  "construction_worker_medium_skin_tone=👷🏽\ncontrol_knobs=🎛\nconvenience_store=🏪",
  "cook_islands=🇨🇰\ncooked_rice=🍚\ncookie=🍪\ncooking=🍳\ncool=🆒\ncool_button=🆒",
  "cop=👮\ncopyright=©\ncorn=🌽\ncosta_rica=🇨🇷\ncouch_and_lamp=🛋",
  "counterclockwise_arrows_button=🔄\ncouple=👫\ncouple_with_heart=💑",
  "couple_with_heart_man_man=👨\u200d❤\ufe0f\u200d👨",
  "couple_with_heart_woman_man=👩\u200d❤\ufe0f\u200d👨",
  "couple_with_heart_woman_woman=👩\u200d❤\ufe0f\u200d👩\ncouplekiss=💏\ncow=🐮",
  "cow2=🐄\ncow_face=🐮\ncowboy_hat_face=🤠\ncrab=🦀\ncrayon=🖍\ncredit_card=💳",
  "crescent_moon=🌙\ncricket=🦗\ncricket_bat_and_ball=🏏\ncricket_game=🏏",
  "croatia=🇭🇷\ncrocodile=🐊\ncroissant=🥐\ncross_mark=❌\ncross_mark_button=❎",
  "crossed_fingers=🤞\ncrossed_fingers_dark_skin_tone=🤞🏿",
  "crossed_fingers_light_skin_tone=🤞🏻\ncrossed_fingers_medium-dark_skin_tone=🤞🏾",
  "crossed_fingers_medium-light_skin_tone=🤞🏼\ncrossed_fingers_medium_skin_tone=🤞🏽",
  "crossed_flags=🎌\ncrossed_swords=⚔\ncrown=👑\ncry=😢\ncrying_cat_face=😿",
  "crying_face=😢\ncrystal_ball=🔮\ncuba=🇨🇺\ncucumber=🥒\ncup_with_straw=🥤",
  "cupcake=🧁\ncupid=💘\ncuraçao=🇨🇼\ncurling_stone=🥌",
  "curly-haired_man=👨\u200d🦱\ncurly-haired_woman=👩\u200d🦱\ncurly_hair=🦱",
  "curly_loop=➰\ncurrency_exchange=💱\ncurry=🍛\ncurry_rice=🍛\ncustard=🍮\ncustoms=🛃",
  "cut_of_meat=🥩\ncyclone=🌀\ncyprus=🇨🇾\nczechia=🇨🇿\ncôte_d’ivoire=🇨🇮",
  "dagger=🗡\ndagger_knife=🗡\ndancer=💃\ndancers=👯\ndango=🍡\ndark_skin_tone=🏿",
  "dark_sunglasses=🕶\ndart=🎯\ndash=💨\ndashing_away=💨\ndate=📅\ndeaf_person=🧏",
  "deciduous_tree=🌳\ndeer=🦌\ndelivery_truck=🚚\ndenmark=🇩🇰\ndepartment_store=🏬",
  "derelict_house=🏚\nderelict_house_building=🏚\ndesert=🏜\ndesert_island=🏝",
  "desktop_computer=🖥\ndetective=🕵\ndetective_dark_skin_tone=🕵🏿",
  "detective_light_skin_tone=🕵🏻\ndetective_medium-dark_skin_tone=🕵🏾",
  "detective_medium-light_skin_tone=🕵🏼\ndetective_medium_skin_tone=🕵🏽",
  "diamond_shape_with_a_dot_inside=💠\ndiamond_suit=♦\ndiamond_with_a_dot=💠\ndiamonds=♦",
  "diego_garcia=🇩🇬\ndim_button=🔅\ndirect_hit=🎯\ndisappointed=😞",
  "disappointed_face=😞\ndisappointed_relieved=😥\ndiving_mask=🤿\ndiya_lamp=🪔",
  "dizzy=💫\ndizzy_face=😵\ndjibouti=🇩🇯\ndna=🧬\ndo_not_litter=🚯\ndog=🐶",
  "dog2=🐕\ndog_face=🐶\ndollar=💵\ndollar_banknote=💵\ndolls=🎎\ndolphin=🐬",
  "dominica=🇩🇲\ndominican_republic=🇩🇴\ndoor=🚪\ndotted_six-pointed_star=🔯",
  "double_curly_loop=➿\ndouble_exclamation_mark=‼\ndouble_vertical_bar=⏸\ndoughnut=🍩",
  "dove=🕊\ndove_of_peace=🕊\ndown-left_arrow=↙\ndown-right_arrow=↘\ndown_arrow=⬇",
  "downcast_face_with_sweat=😓\ndownwards_button=🔽\ndragon=🐉\ndragon_face=🐲\ndress=👗",
  "dromedary_camel=🐪\ndrooling_face=🤤\ndrop_of_blood=🩸\ndroplet=💧\ndrum=🥁",
  "duck=🦆\ndumpling=🥟\ndvd=📀\ne-mail=📧\ne__mail=📧\neagle=🦅\near=👂",
  "ear_dark_skin_tone=👂🏿\near_light_skin_tone=👂🏻\near_medium-dark_skin_tone=👂🏾",
  "ear_medium-light_skin_tone=👂🏼\near_medium_skin_tone=👂🏽\near_of_corn=🌽",
  "ear_of_rice=🌾\near_with_hearing_aid=🦻\nearth_africa=🌍\nearth_americas=🌎",
  "earth_asia=🌏\necuador=🇪🇨\negg=🍳\neggplant=🍆\negypt=🇪🇬\neight=8\ufe0f\u20e3",
  "eight-pointed_star=✴\neight-spoked_asterisk=✳\neight-thirty=🕣\neight_o’clock=🕗",
  "eight_pointed_black_star=✴\neight_spoked_asterisk=✳\neject_button=⏏\neject_symbol=⏏",
  "el_salvador=🇸🇻\nelectric_plug=🔌\nelephant=🐘\neleven-thirty=🕦",
  "eleven_o’clock=🕚\nelf=🧝\nelf_dark_skin_tone=🧝🏿\nelf_light_skin_tone=🧝🏻",
  "elf_medium-dark_skin_tone=🧝🏾\nelf_medium-light_skin_tone=🧝🏼",
  "elf_medium_skin_tone=🧝🏽\nemail=✉\nemoji_modifier_fitzpatrick_type__1__2=🏻",
  "emoji_modifier_fitzpatrick_type__3=🏼\nemoji_modifier_fitzpatrick_type__4=🏽",
  "emoji_modifier_fitzpatrick_type__5=🏾\nemoji_modifier_fitzpatrick_type__6=🏿\nend=🔚",
  "end_arrow=🔚\nengland=🏴󠁧󠁢󠁥󠁮󠁧󠁿\nenvelope=✉\nenvelope_with_arrow=📩",
  "equatorial_guinea=🇬🇶\neritrea=🇪🇷\nestonia=🇪🇪\nethiopia=🇪🇹\neuro=💶",
  "euro_banknote=💶\neuropean_castle=🏰\neuropean_post_office=🏤\neuropean_union=🇪🇺",
  "evergreen_tree=🌲\newe=🐑\nexclamation=❗\nexclamation_mark=❗",
  "exclamation_question_mark=⁉\nexploding_head=🤯\nexpressionless=😑",
  "expressionless_face=😑\neye=👁\neye_in_speech_bubble=👁\ufe0f\u200d🗨\ufe0f",
  "eyeglasses=👓\neyes=👀\nface_blowing_a_kiss=😘\nface_savoring_food=😋",
  "face_screaming_in_fear=😱\nface_vomiting=🤮\nface_with_hand_over_mouth=🤭",
  "face_with_head-bandage=🤕\nface_with_head__bandage=🤕\nface_with_medical_mask=😷",
  "face_with_monocle=🧐\nface_with_open_mouth=😮\nface_with_raised_eyebrow=🤨",
  "face_with_rolling_eyes=🙄\nface_with_steam_from_nose=😤\nface_with_symbols_on_mouth=🤬",
  "face_with_tears_of_joy=😂\nface_with_thermometer=🤒\nface_with_tongue=😛",
  "face_without_mouth=😶\nfacepunch=👊\nfactory=🏭\nfairy=🧚",
  "fairy_dark_skin_tone=🧚🏿\nfairy_light_skin_tone=🧚🏻",
  "fairy_medium-dark_skin_tone=🧚🏾\nfairy_medium-light_skin_tone=🧚🏼",
  "fairy_medium_skin_tone=🧚🏽\nfalafel=🧆\nfalkland_islands=🇫🇰\nfallen_leaf=🍂",
  "family=👪\nfamily_man_boy=👨\u200d👦\nfamily_man_boy_boy=👨\u200d👦\u200d👦",
  "family_man_girl=👨\u200d👧\nfamily_man_girl_boy=👨\u200d👧\u200d👦",
  "family_man_girl_girl=👨\u200d👧\u200d👧\nfamily_man_man_boy=👨\u200d👨\u200d👦",
  "family_man_man_boy_boy=👨\u200d👨\u200d👦\u200d👦",
  "family_man_man_girl=👨\u200d👨\u200d👧",
  "family_man_man_girl_boy=👨\u200d👨\u200d👧\u200d👦",
  "family_man_man_girl_girl=👨\u200d👨\u200d👧\u200d👧",
  "family_man_woman_boy=👨\u200d👩\u200d👦",
  "family_man_woman_boy_boy=👨\u200d👩\u200d👦\u200d👦",
  "family_man_woman_girl=👨\u200d👩\u200d👧",
  "family_man_woman_girl_boy=👨\u200d👩\u200d👧\u200d👦",
  "family_man_woman_girl_girl=👨\u200d👩\u200d👧\u200d👧\nfamily_woman_boy=👩\u200d👦",
  "family_woman_boy_boy=👩\u200d👦\u200d👦\nfamily_woman_girl=👩\u200d👧",
  "family_woman_girl_boy=👩\u200d👧\u200d👦\nfamily_woman_girl_girl=👩\u200d👧\u200d👧",
  "family_woman_woman_boy=👩\u200d👩\u200d👦",
  "family_woman_woman_boy_boy=👩\u200d👩\u200d👦\u200d👦",
  "family_woman_woman_girl=👩\u200d👩\u200d👧",
  "family_woman_woman_girl_boy=👩\u200d👩\u200d👧\u200d👦",
  "family_woman_woman_girl_girl=👩\u200d👩\u200d👧\u200d👧\nfaroe_islands=🇫🇴",
  "fast-forward_button=⏩\nfast_down_button=⏬\nfast_forward=⏩\nfast_reverse_button=⏪",
  "fast_up_button=⏫\nfax=📠\nfax_machine=📠\nfearful=😨\nfearful_face=😨\nfeet=🐾",
  "female_sign=♀\nferris_wheel=🎡\nferry=⛴\nfield_hockey=🏑",
  "field_hockey_stick_and_ball=🏑\nfiji=🇫🇯\nfile_cabinet=🗄\nfile_folder=📁",
  "film_frames=🎞\nfilm_projector=📽\nfinland=🇫🇮\nfire=🔥\nfire_engine=🚒",
  "fire_extinguisher=🧯\nfirecracker=🧨\nfireworks=🎆\nfirst_quarter_moon=🌓",
  "first_quarter_moon_face=🌛\nfirst_quarter_moon_with_face=🌛\nfish=🐟\nfish_cake=🍥",
  "fish_cake_with_swirl=🍥\nfishing_pole=🎣\nfishing_pole_and_fish=🎣\nfist=✊",
  "five=5\ufe0f\u20e3\nfive-thirty=🕠\nfive_o’clock=🕔\nflag_for_afghanistan=🇦🇫",
  "flag_for_albania=🇦🇱\nflag_for_algeria=🇩🇿\nflag_for_american_samoa=🇦🇸",
  "flag_for_andorra=🇦🇩\nflag_for_angola=🇦🇴\nflag_for_anguilla=🇦🇮",
  "flag_for_antarctica=🇦🇶\nflag_for_antigua_&_barbuda=🇦🇬\nflag_for_argentina=🇦🇷",
  "flag_for_armenia=🇦🇲\nflag_for_aruba=🇦🇼\nflag_for_ascension_island=🇦🇨",
  "flag_for_australia=🇦🇺\nflag_for_austria=🇦🇹\nflag_for_azerbaijan=🇦🇿",
  "flag_for_bahamas=🇧🇸\nflag_for_bahrain=🇧🇭\nflag_for_bangladesh=🇧🇩",
  "flag_for_barbados=🇧🇧\nflag_for_belarus=🇧🇾\nflag_for_belgium=🇧🇪",
  "flag_for_belize=🇧🇿\nflag_for_benin=🇧🇯\nflag_for_bermuda=🇧🇲",
  "flag_for_bhutan=🇧🇹\nflag_for_bolivia=🇧🇴\nflag_for_bosnia_&_herzegovina=🇧🇦",
  "flag_for_botswana=🇧🇼\nflag_for_bouvet_island=🇧🇻\nflag_for_brazil=🇧🇷",
  "flag_for_british_indian_ocean_territory=🇮🇴\nflag_for_british_virgin_islands=🇻🇬",
  "flag_for_brunei=🇧🇳\nflag_for_bulgaria=🇧🇬\nflag_for_burkina_faso=🇧🇫",
  "flag_for_burundi=🇧🇮\nflag_for_cambodia=🇰🇭\nflag_for_cameroon=🇨🇲",
  "flag_for_canada=🇨🇦\nflag_for_canary_islands=🇮🇨\nflag_for_cape_verde=🇨🇻",
  "flag_for_caribbean_netherlands=🇧🇶\nflag_for_cayman_islands=🇰🇾",
  "flag_for_central_african_republic=🇨🇫\nflag_for_ceuta_&_melilla=🇪🇦",
  "flag_for_chad=🇹🇩\nflag_for_chile=🇨🇱\nflag_for_china=🇨🇳",
  "flag_for_christmas_island=🇨🇽\nflag_for_clipperton_island=🇨🇵",
  "flag_for_cocos__islands=🇨🇨\nflag_for_colombia=🇨🇴\nflag_for_comoros=🇰🇲",
  "flag_for_congo____brazzaville=🇨🇬\nflag_for_congo____kinshasa=🇨🇩",
  "flag_for_cook_islands=🇨🇰\nflag_for_costa_rica=🇨🇷\nflag_for_croatia=🇭🇷",
  "flag_for_cuba=🇨🇺\nflag_for_curaçao=🇨🇼\nflag_for_cyprus=🇨🇾",
  "flag_for_czech_republic=🇨🇿\nflag_for_côte_d’ivoire=🇨🇮\nflag_for_denmark=🇩🇰",
  "flag_for_diego_garcia=🇩🇬\nflag_for_djibouti=🇩🇯\nflag_for_dominica=🇩🇲",
  "flag_for_dominican_republic=🇩🇴\nflag_for_ecuador=🇪🇨\nflag_for_egypt=🇪🇬",
  "flag_for_el_salvador=🇸🇻\nflag_for_equatorial_guinea=🇬🇶\nflag_for_eritrea=🇪🇷",
  "flag_for_estonia=🇪🇪\nflag_for_ethiopia=🇪🇹\nflag_for_european_union=🇪🇺",
  "flag_for_falkland_islands=🇫🇰\nflag_for_faroe_islands=🇫🇴\nflag_for_fiji=🇫🇯",
  "flag_for_finland=🇫🇮\nflag_for_france=🇫🇷\nflag_for_french_guiana=🇬🇫",
  "flag_for_french_polynesia=🇵🇫\nflag_for_french_southern_territories=🇹🇫",
  "flag_for_gabon=🇬🇦\nflag_for_gambia=🇬🇲\nflag_for_georgia=🇬🇪",
  "flag_for_germany=🇩🇪\nflag_for_ghana=🇬🇭\nflag_for_gibraltar=🇬🇮",
  "flag_for_greece=🇬🇷\nflag_for_greenland=🇬🇱\nflag_for_grenada=🇬🇩",
  "flag_for_guadeloupe=🇬🇵\nflag_for_guam=🇬🇺\nflag_for_guatemala=🇬🇹",
  "flag_for_guernsey=🇬🇬\nflag_for_guinea=🇬🇳\nflag_for_guinea__bissau=🇬🇼",
  "flag_for_guyana=🇬🇾\nflag_for_haiti=🇭🇹\nflag_for_heard_&_mcdonald_islands=🇭🇲",
  "flag_for_honduras=🇭🇳\nflag_for_hong_kong=🇭🇰\nflag_for_hungary=🇭🇺",
  "flag_for_iceland=🇮🇸\nflag_for_india=🇮🇳\nflag_for_indonesia=🇮🇩",
  "flag_for_iran=🇮🇷\nflag_for_iraq=🇮🇶\nflag_for_ireland=🇮🇪",
  "flag_for_isle_of_man=🇮🇲\nflag_for_israel=🇮🇱\nflag_for_italy=🇮🇹",
  "flag_for_jamaica=🇯🇲\nflag_for_japan=🇯🇵\nflag_for_jersey=🇯🇪",
  "flag_for_jordan=🇯🇴\nflag_for_kazakhstan=🇰🇿\nflag_for_kenya=🇰🇪",
  "flag_for_kiribati=🇰🇮\nflag_for_kosovo=🇽🇰\nflag_for_kuwait=🇰🇼",
  "flag_for_kyrgyzstan=🇰🇬\nflag_for_laos=🇱🇦\nflag_for_latvia=🇱🇻",
  "flag_for_lebanon=🇱🇧\nflag_for_lesotho=🇱🇸\nflag_for_liberia=🇱🇷",
  "flag_for_libya=🇱🇾\nflag_for_liechtenstein=🇱🇮\nflag_for_lithuania=🇱🇹",
  "flag_for_luxembourg=🇱🇺\nflag_for_macau=🇲🇴\nflag_for_macedonia=🇲🇰",
  "flag_for_madagascar=🇲🇬\nflag_for_malawi=🇲🇼\nflag_for_malaysia=🇲🇾",
  "flag_for_maldives=🇲🇻\nflag_for_mali=🇲🇱\nflag_for_malta=🇲🇹",
  "flag_for_marshall_islands=🇲🇭\nflag_for_martinique=🇲🇶\nflag_for_mauritania=🇲🇷",
  "flag_for_mauritius=🇲🇺\nflag_for_mayotte=🇾🇹\nflag_for_mexico=🇲🇽",
  "flag_for_micronesia=🇫🇲\nflag_for_moldova=🇲🇩\nflag_for_monaco=🇲🇨",
  "flag_for_mongolia=🇲🇳\nflag_for_montenegro=🇲🇪\nflag_for_montserrat=🇲🇸",
  "flag_for_morocco=🇲🇦\nflag_for_mozambique=🇲🇿\nflag_for_myanmar=🇲🇲",
  "flag_for_namibia=🇳🇦\nflag_for_nauru=🇳🇷\nflag_for_nepal=🇳🇵",
  "flag_for_netherlands=🇳🇱\nflag_for_new_caledonia=🇳🇨\nflag_for_new_zealand=🇳🇿",
  "flag_for_nicaragua=🇳🇮\nflag_for_niger=🇳🇪\nflag_for_nigeria=🇳🇬",
  "flag_for_niue=🇳🇺\nflag_for_norfolk_island=🇳🇫\nflag_for_north_korea=🇰🇵",
  "flag_for_northern_mariana_islands=🇲🇵\nflag_for_norway=🇳🇴\nflag_for_oman=🇴🇲",
  "flag_for_pakistan=🇵🇰\nflag_for_palau=🇵🇼\nflag_for_palestinian_territories=🇵🇸",
  "flag_for_panama=🇵🇦\nflag_for_papua_new_guinea=🇵🇬\nflag_for_paraguay=🇵🇾",
  "flag_for_peru=🇵🇪\nflag_for_philippines=🇵🇭\nflag_for_pitcairn_islands=🇵🇳",
  "flag_for_poland=🇵🇱\nflag_for_portugal=🇵🇹\nflag_for_puerto_rico=🇵🇷",
  "flag_for_qatar=🇶🇦\nflag_for_romania=🇷🇴\nflag_for_russia=🇷🇺",
  "flag_for_rwanda=🇷🇼\nflag_for_réunion=🇷🇪\nflag_for_samoa=🇼🇸",
  "flag_for_san_marino=🇸🇲\nflag_for_saudi_arabia=🇸🇦\nflag_for_senegal=🇸🇳",
  "flag_for_serbia=🇷🇸\nflag_for_seychelles=🇸🇨\nflag_for_sierra_leone=🇸🇱",
  "flag_for_singapore=🇸🇬\nflag_for_sint_maarten=🇸🇽\nflag_for_slovakia=🇸🇰",
  "flag_for_slovenia=🇸🇮\nflag_for_solomon_islands=🇸🇧\nflag_for_somalia=🇸🇴",
  "flag_for_south_africa=🇿🇦\nflag_for_south_georgia_&_south_sandwich_islands=🇬🇸",
  "flag_for_south_korea=🇰🇷\nflag_for_south_sudan=🇸🇸\nflag_for_spain=🇪🇸",
  "flag_for_sri_lanka=🇱🇰\nflag_for_st._barthélemy=🇧🇱\nflag_for_st._helena=🇸🇭",
  "flag_for_st._kitts_&_nevis=🇰🇳\nflag_for_st._lucia=🇱🇨\nflag_for_st._martin=🇲🇫",
  "flag_for_st._pierre_&_miquelon=🇵🇲\nflag_for_st._vincent_&_grenadines=🇻🇨",
  "flag_for_sudan=🇸🇩\nflag_for_suriname=🇸🇷\nflag_for_svalbard_&_jan_mayen=🇸🇯",
  "flag_for_swaziland=🇸🇿\nflag_for_sweden=🇸🇪\nflag_for_switzerland=🇨🇭",
  "flag_for_syria=🇸🇾\nflag_for_são_tomé_&_príncipe=🇸🇹\nflag_for_taiwan=🇹🇼",
  "flag_for_tajikistan=🇹🇯\nflag_for_tanzania=🇹🇿\nflag_for_thailand=🇹🇭",
  "flag_for_timor__leste=🇹🇱\nflag_for_togo=🇹🇬\nflag_for_tokelau=🇹🇰",
  "flag_for_tonga=🇹🇴\nflag_for_trinidad_&_tobago=🇹🇹",
  "flag_for_tristan_da_cunha=🇹🇦\nflag_for_tunisia=🇹🇳\nflag_for_turkey=🇹🇷",
  "flag_for_turkmenistan=🇹🇲\nflag_for_turks_&_caicos_islands=🇹🇨",
  "flag_for_tuvalu=🇹🇻\nflag_for_u.s._outlying_islands=🇺🇲",
  "flag_for_u.s._virgin_islands=🇻🇮\nflag_for_uganda=🇺🇬\nflag_for_ukraine=🇺🇦",
  "flag_for_united_arab_emirates=🇦🇪\nflag_for_united_kingdom=🇬🇧",
  "flag_for_united_states=🇺🇸\nflag_for_uruguay=🇺🇾\nflag_for_uzbekistan=🇺🇿",
  "flag_for_vanuatu=🇻🇺\nflag_for_vatican_city=🇻🇦\nflag_for_venezuela=🇻🇪",
  "flag_for_vietnam=🇻🇳\nflag_for_wallis_&_futuna=🇼🇫\nflag_for_western_sahara=🇪🇭",
  "flag_for_yemen=🇾🇪\nflag_for_zambia=🇿🇲\nflag_for_zimbabwe=🇿🇼",
  "flag_for_åland_islands=🇦🇽\nflag_in_hole=⛳\nflags=🎏\nflamingo=🦩\nflashlight=🔦",
  "flat_shoe=🥿\nfleur-de-lis=⚜\nfleur__de__lis=⚜\nflexed_biceps=💪",
  "flexed_biceps_dark_skin_tone=💪🏿\nflexed_biceps_light_skin_tone=💪🏻",
  "flexed_biceps_medium-dark_skin_tone=💪🏾\nflexed_biceps_medium-light_skin_tone=💪🏼",
  "flexed_biceps_medium_skin_tone=💪🏽\nflipper=🐬\nfloppy_disk=💾",
  "flower_playing_cards=🎴\nflushed=😳\nflushed_face=😳\nflying_disc=🥏",
  "flying_saucer=🛸\nfog=🌫\nfoggy=🌁\nfolded_hands=🙏",
  "folded_hands_dark_skin_tone=🙏🏿\nfolded_hands_light_skin_tone=🙏🏻",
  "folded_hands_medium-dark_skin_tone=🙏🏾\nfolded_hands_medium-light_skin_tone=🙏🏼",
  "folded_hands_medium_skin_tone=🙏🏽\nfoot=🦶\nfootball=🏈\nfootprints=👣",
  "fork_and_knife=🍴\nfork_and_knife_with_plate=🍽\nfortune_cookie=🥠\nfountain=⛲",
  "fountain_pen=🖋\nfour=4\ufe0f\u20e3\nfour-thirty=🕟\nfour_leaf_clover=🍀",
  "four_o’clock=🕓\nfox_face=🦊\nframe_with_picture=🖼\nframed_picture=🖼",
  "france=🇫🇷\nfree=🆓\nfree_button=🆓\nfrench_fries=🍟\nfrench_guiana=🇬🇫",
  "french_polynesia=🇵🇫\nfrench_southern_territories=🇹🇫\nfried_shrimp=🍤\nfries=🍟",
  "frog=🐸\nfrog_face=🐸\nfront-facing_baby_chick=🐥\nfrowning=😦\nfrowning_face=☹",
  "frowning_face_with_open_mouth=😦\nfuel_pump=⛽\nfuelpump=⛽\nfull_moon=🌕",
  "full_moon_face=🌝\nfull_moon_with_face=🌝\nfuneral_urn=⚱\ngabon=🇬🇦\ngambia=🇬🇲",
  "game_die=🎲\ngarlic=🧄\ngear=⚙\ngem=💎\ngem_stone=💎\ngemini=♊\ngenie=🧞",
  "georgia=🇬🇪\ngermany=🇩🇪\nghana=🇬🇭\nghost=👻\ngibraltar=🇬🇮\ngift=🎁",
  "gift_heart=💝\ngiraffe=🦒\ngirl=👧\ngirl_dark_skin_tone=👧🏿",
  "girl_light_skin_tone=👧🏻\ngirl_medium-dark_skin_tone=👧🏾",
  "girl_medium-light_skin_tone=👧🏼\ngirl_medium_skin_tone=👧🏽\nglass_of_milk=🥛",
  "glasses=👓\nglobe_showing_americas=🌎\nglobe_showing_asia-australia=🌏",
  "globe_showing_europe-africa=🌍\nglobe_with_meridians=🌐\ngloves=🧤\nglowing_star=🌟",
  "goal_net=🥅\ngoat=🐐\ngoblin=👺\ngoggles=🥽\ngolf=⛳\ngolfer=🏌\ngorilla=🦍",
  "graduation_cap=🎓\ngrapes=🍇\ngreece=🇬🇷\ngreen_apple=🍏\ngreen_book=📗",
  "green_circle=🟢\ngreen_heart=💚\ngreen_salad=🥗\ngreen_square=🟩\ngreenland=🇬🇱",
  "grenada=🇬🇩\ngrey_exclamation=❕\ngrey_question=❔\ngrimacing=😬\ngrimacing_face=😬",
  "grin=😁\ngrinning=😀\ngrinning_cat_face=😺\ngrinning_cat_face_with_smiling_eyes=😸",
  "grinning_face=😀\ngrinning_face_with_big_eyes=😃\ngrinning_face_with_smiling_eyes=😄",
  "grinning_face_with_sweat=😅\ngrinning_squinting_face=😆\ngrowing_heart=💗",
  "guadeloupe=🇬🇵\nguam=🇬🇺\nguard=💂\nguard_dark_skin_tone=💂🏿",
  "guard_light_skin_tone=💂🏻\nguard_medium-dark_skin_tone=💂🏾",
  "guard_medium-light_skin_tone=💂🏼\nguard_medium_skin_tone=💂🏽\nguardsman=💂",
  "guatemala=🇬🇹\nguernsey=🇬🇬\nguide_dog=🦮\nguinea=🇬🇳\nguinea-bissau=🇬🇼",
  "guitar=🎸\ngun=🔫\nguyana=🇬🇾\nhaircut=💇\nhaiti=🇭🇹\nhamburger=🍔",
  "hammer=🔨\nhammer_and_pick=⚒\nhammer_and_wrench=🛠\nhamster=🐹\nhamster_face=🐹",
  "hand=✋\nhand_with_fingers_splayed=🖐\nhand_with_fingers_splayed_dark_skin_tone=🖐🏿",
  "hand_with_fingers_splayed_light_skin_tone=🖐🏻",
  "hand_with_fingers_splayed_medium-dark_skin_tone=🖐🏾",
  "hand_with_fingers_splayed_medium-light_skin_tone=🖐🏼",
  "hand_with_fingers_splayed_medium_skin_tone=🖐🏽\nhandbag=👜\nhandshake=🤝\nhankey=💩",
  "hatched_chick=🐥\nhatching_chick=🐣\nheadphone=🎧\nheadphones=🎧",
  "hear-no-evil_monkey=🙉\nhear_no_evil=🙉\nheard_&_mcdonald_islands=🇭🇲\nheart=❤",
  "heart_decoration=💟\nheart_eyes=😍\nheart_eyes_cat=😻\nheart_suit=♥",
  "heart_with_arrow=💘\nheart_with_ribbon=💝\nheartbeat=💓\nheartpulse=💗\nhearts=♥",
  "heavy_check_mark=✔\nheavy_division_sign=➗\nheavy_dollar_sign=💲",
  "heavy_exclamation_mark=❗\nheavy_heart_exclamation=❣",
  "heavy_heart_exclamation_mark_ornament=❣\nheavy_large_circle=⭕\nheavy_minus_sign=➖",
  "heavy_multiplication_x=✖\nheavy_plus_sign=➕\nhedgehog=🦔\nhelicopter=🚁",
  "helm_symbol=⎈\nhelmet_with_white_cross=⛑\nherb=🌿\nhibiscus=🌺\nhigh-heeled_shoe=👠",
  "high-speed_train=🚄\nhigh_brightness=🔆\nhigh_heel=👠\nhigh_voltage=⚡\nhiking_boot=🥾",
  "hindu_temple=🛕\nhippopotamus=🦛\nhocho=🔪\nhole=🕳\nhonduras=🇭🇳\nhoney_pot=🍯",
  "honeybee=🐝\nhong_kong_sar_china=🇭🇰\nhorizontal_traffic_light=🚥\nhorse=🐴",
  "horse_face=🐴\nhorse_racing=🏇\nhorse_racing_dark_skin_tone=🏇🏿",
  "horse_racing_light_skin_tone=🏇🏻\nhorse_racing_medium-dark_skin_tone=🏇🏾",
  "horse_racing_medium-light_skin_tone=🏇🏼\nhorse_racing_medium_skin_tone=🏇🏽",
  "hospital=🏥\nhot_beverage=☕\nhot_dog=🌭\nhot_face=🥵\nhot_pepper=🌶\nhot_springs=♨",
  "hotel=🏨\nhotsprings=♨\nhourglass=⌛\nhourglass_done=⌛\nhourglass_flowing_sand=⏳",
  "hourglass_not_done=⏳\nhouse=🏠\nhouse_buildings=🏘\nhouse_with_garden=🏡\nhouses=🏘",
  "hugging_face=🤗\nhundred_points=💯\nhungary=🇭🇺\nhushed=😯\nhushed_face=😯",
  "ice=🧊\nice_cream=🍨\nice_hockey=🏒\nice_hockey_stick_and_puck=🏒\nice_skate=⛸",
  "icecream=🍦\niceland=🇮🇸\nid=🆔\nid_button=🆔\nideograph_advantage=🉐\nimp=👿",
  "inbox_tray=📥\nincoming_envelope=📨\nindex_pointing_up=☝",
  "index_pointing_up_dark_skin_tone=☝🏿\nindex_pointing_up_light_skin_tone=☝🏻",
  "index_pointing_up_medium-dark_skin_tone=☝🏾",
  "index_pointing_up_medium-light_skin_tone=☝🏼\nindex_pointing_up_medium_skin_tone=☝🏽",
  "india=🇮🇳\nindonesia=🇮🇩\ninfinity=♾\ninformation=ℹ\ninformation_desk_person=💁",
  "information_source=ℹ\ninnocent=😇\ninput_latin_letters=🔤\ninput_latin_lowercase=🔡",
  "input_latin_uppercase=🔠\ninput_numbers=🔢\ninput_symbols=🔣\ninterrobang=⁉",
  "iphone=📱\niran=🇮🇷\niraq=🇮🇶\nireland=🇮🇪\nisle_of_man=🇮🇲",
  "israel=🇮🇱\nitaly=🇮🇹\nizakaya_lantern=🏮\njack-o-lantern=🎃\njack_o_lantern=🎃",
  "jamaica=🇯🇲\njapan=🗾\njapanese_acceptable_button=🉑\njapanese_application_button=🈸",
  "japanese_bargain_button=🉐\njapanese_castle=🏯\njapanese_congratulations_button=㊗",
  "japanese_discount_button=🈹\njapanese_dolls=🎎\njapanese_free_of_charge_button=🈚",
  "japanese_goblin=👺\njapanese_here_button=🈁\njapanese_monthly_amount_button=🈷",
  "japanese_no_vacancy_button=🈵\njapanese_not_free_of_charge_button=🈶\njapanese_ogre=👹",
  "japanese_open_for_business_button=🈺\njapanese_passing_grade_button=🈴",
  "japanese_post_office=🏣\njapanese_prohibited_button=🈲\njapanese_reserved_button=🈯",
  "japanese_secret_button=㊙\njapanese_service_charge_button=🈂",
  "japanese_symbol_for_beginner=🔰\njapanese_vacancy_button=🈳\njeans=👖\njersey=🇯🇪",
  "jigsaw=🧩\njoker=🃏\njordan=🇯🇴\njoy=😂\njoy_cat=😹\njoystick=🕹\nkaaba=🕋",
  "kangaroo=🦘\nkazakhstan=🇰🇿\nkenya=🇰🇪\nkey=🔑\nkeyboard=⌨",
  "keycap_#=#\ufe0f\u20e3\nkeycap_*=*\ufe0f\u20e3\nkeycap_0=0\ufe0f\u20e3\nkeycap_1=1\ufe0f\u20e3",
  "keycap_10=🔟\nkeycap_2=2\ufe0f\u20e3\nkeycap_3=3\ufe0f\u20e3\nkeycap_4=4\ufe0f\u20e3",
  "keycap_5=5\ufe0f\u20e3\nkeycap_6=6\ufe0f\u20e3\nkeycap_7=7\ufe0f\u20e3\nkeycap_8=8\ufe0f\u20e3",
  "keycap_9=9\ufe0f\u20e3\nkeycap_asterisk=*\u20e3\nkeycap_digit_eight=8\u20e3",
  "keycap_digit_five=5\u20e3\nkeycap_digit_four=4\u20e3\nkeycap_digit_nine=9\u20e3",
  "keycap_digit_one=1\u20e3\nkeycap_digit_seven=7\u20e3\nkeycap_digit_six=6\u20e3",
  "keycap_digit_three=3\u20e3\nkeycap_digit_two=2\u20e3\nkeycap_digit_zero=0\u20e3",
  "keycap_number_sign=#\u20e3\nkick_scooter=🛴\nkimono=👘\nkiribati=🇰🇮\nkiss=💋",
  "kiss_man_man=👨\u200d❤\ufe0f\u200d💋\u200d👨\nkiss_mark=💋",
  "kiss_woman_man=👩\u200d❤\ufe0f\u200d💋\u200d👨",
  "kiss_woman_woman=👩\u200d❤\ufe0f\u200d💋\u200d👩\nkissing=😗\nkissing_cat=😽",
  "kissing_cat_face=😽\nkissing_closed_eyes=😚\nkissing_face=😗",
  "kissing_face_with_closed_eyes=😚\nkissing_face_with_smiling_eyes=😙\nkissing_heart=😘",
  "kissing_smiling_eyes=😙\nkitchen_knife=🔪\nkite=🪁\nkiwi_fruit=🥝\nknife=🔪",
  "koala=🐨\nkoko=🈁\nkosovo=🇽🇰\nkuwait=🇰🇼\nkyrgyzstan=🇰🇬\nlab_coat=🥼",
  "label=🏷\nlacrosse=🥍\nlady_beetle=🐞\nlantern=🏮\nlaos=🇱🇦\nlaptop_computer=💻",
  "large_blue_circle=🔵\nlarge_blue_diamond=🔷\nlarge_orange_diamond=🔶",
  "last_quarter_moon=🌗\nlast_quarter_moon_face=🌜\nlast_quarter_moon_with_face=🌜",
  "last_track_button=⏮\nlatin_cross=✝\nlatvia=🇱🇻\nlaughing=😆",
  "leaf_fluttering_in_wind=🍃\nleafy_green=🥬\nleaves=🍃\nlebanon=🇱🇧\nledger=📒",
  "left-facing_fist=🤛\nleft-facing_fist_dark_skin_tone=🤛🏿",
  "left-facing_fist_light_skin_tone=🤛🏻\nleft-facing_fist_medium-dark_skin_tone=🤛🏾",
  "left-facing_fist_medium-light_skin_tone=🤛🏼\nleft-facing_fist_medium_skin_tone=🤛🏽",
  "left-right_arrow=↔\nleft_arrow=⬅\nleft_arrow_curving_right=↪\nleft_luggage=🛅",
  "left_right_arrow=↔\nleft_speech_bubble=🗨\nleftwards_arrow_with_hook=↩\nleg=🦵",
  "lemon=🍋\nleo=♌\nleopard=🐆\nlesotho=🇱🇸\nlevel_slider=🎚\nliberia=🇱🇷",
  "libra=♎\nlibya=🇱🇾\nliechtenstein=🇱🇮\nlight_bulb=💡\nlight_rail=🚈",
  "light_skin_tone=🏻\nlink=🔗\nlinked_paperclips=🖇\nlion_face=🦁\nlips=👄",
  "lipstick=💄\nlithuania=🇱🇹\nlitter_in_bin_sign=🚮\nlizard=🦎\nllama=🦙",
  "lobster=🦞\nlock=🔒\nlock_with_ink_pen=🔏\nlocked=🔒\nlocked_with_key=🔐",
  "locked_with_pen=🔏\nlocomotive=🚂\nlollipop=🍭\nloop=➿\nlotion_bottle=🧴",
  "loud_sound=🔊\nloudly_crying_face=😭\nloudspeaker=📢\nlove-you_gesture=🤟",
  "love-you_gesture_dark_skin_tone=🤟🏿\nlove-you_gesture_light_skin_tone=🤟🏻",
  "love-you_gesture_medium-dark_skin_tone=🤟🏾",
  "love-you_gesture_medium-light_skin_tone=🤟🏼\nlove-you_gesture_medium_skin_tone=🤟🏽",
  "love_hotel=🏩\nlove_letter=💌\nlow_brightness=🔅\nlower_left_ballpoint_pen=🖊",
  "lower_left_crayon=🖍\nlower_left_fountain_pen=🖋\nlower_left_paintbrush=🖌\nluggage=🧳",
  "luxembourg=🇱🇺\nlying_face=🤥\nm=Ⓜ\nmacau_sar_china=🇲🇴\nmacedonia=🇲🇰",
  "madagascar=🇲🇬\nmag=🔍\nmag_right=🔎\nmage=🧙\nmage_dark_skin_tone=🧙🏿",
  "mage_light_skin_tone=🧙🏻\nmage_medium-dark_skin_tone=🧙🏾",
  "mage_medium-light_skin_tone=🧙🏼\nmage_medium_skin_tone=🧙🏽\nmagnet=🧲",
  "magnifying_glass_tilted_left=🔍\nmagnifying_glass_tilted_right=🔎\nmahjong=🀄",
  "mahjong_red_dragon=🀄\nmailbox=📫\nmailbox_closed=📪\nmailbox_with_mail=📬",
  "mailbox_with_no_mail=📭\nmalawi=🇲🇼\nmalaysia=🇲🇾\nmaldives=🇲🇻\nmale_sign=♂",
  "mali=🇲🇱\nmalta=🇲🇹\nman=👨\nman_and_woman_holding_hands=👫",
  "man_artist=👨\u200d🎨\nman_artist_dark_skin_tone=👨🏿\u200d🎨",
  "man_artist_light_skin_tone=👨🏻\u200d🎨",
  "man_artist_medium-dark_skin_tone=👨🏾\u200d🎨",
  "man_artist_medium-light_skin_tone=👨🏼\u200d🎨",
  "man_artist_medium_skin_tone=👨🏽\u200d🎨\nman_astronaut=👨\u200d🚀",
  "man_astronaut_dark_skin_tone=👨🏿\u200d🚀",
  "man_astronaut_light_skin_tone=👨🏻\u200d🚀",
  "man_astronaut_medium-dark_skin_tone=👨🏾\u200d🚀",
  "man_astronaut_medium-light_skin_tone=👨🏼\u200d🚀",
  "man_astronaut_medium_skin_tone=👨🏽\u200d🚀\nman_biking=🚴\u200d♂\ufe0f",
  "man_biking_dark_skin_tone=🚴🏿\u200d♂\ufe0f",
  "man_biking_light_skin_tone=🚴🏻\u200d♂\ufe0f",
  "man_biking_medium-dark_skin_tone=🚴🏾\u200d♂\ufe0f",
  "man_biking_medium-light_skin_tone=🚴🏼\u200d♂\ufe0f",
  "man_biking_medium_skin_tone=🚴🏽\u200d♂\ufe0f\nman_bouncing_ball=⛹\ufe0f\u200d♂\ufe0f",
  "man_bouncing_ball_dark_skin_tone=⛹🏿\u200d♂\ufe0f",
  "man_bouncing_ball_light_skin_tone=⛹🏻\u200d♂\ufe0f",
  "man_bouncing_ball_medium-dark_skin_tone=⛹🏾\u200d♂\ufe0f",
  "man_bouncing_ball_medium-light_skin_tone=⛹🏼\u200d♂\ufe0f",
  "man_bouncing_ball_medium_skin_tone=⛹🏽\u200d♂\ufe0f\nman_bowing=🙇\u200d♂\ufe0f",
  "man_bowing_dark_skin_tone=🙇🏿\u200d♂\ufe0f",
  "man_bowing_light_skin_tone=🙇🏻\u200d♂\ufe0f",
  "man_bowing_medium-dark_skin_tone=🙇🏾\u200d♂\ufe0f",
  "man_bowing_medium-light_skin_tone=🙇🏼\u200d♂\ufe0f",
  "man_bowing_medium_skin_tone=🙇🏽\u200d♂\ufe0f\nman_cartwheeling=🤸\u200d♂\ufe0f",
  "man_cartwheeling_dark_skin_tone=🤸🏿\u200d♂\ufe0f",
  "man_cartwheeling_light_skin_tone=🤸🏻\u200d♂\ufe0f",
  "man_cartwheeling_medium-dark_skin_tone=🤸🏾\u200d♂\ufe0f",
  "man_cartwheeling_medium-light_skin_tone=🤸🏼\u200d♂\ufe0f",
  "man_cartwheeling_medium_skin_tone=🤸🏽\u200d♂\ufe0f\nman_climbing=🧗\u200d♂\ufe0f",
  "man_climbing_dark_skin_tone=🧗🏿\u200d♂\ufe0f",
  "man_climbing_light_skin_tone=🧗🏻\u200d♂\ufe0f",
  "man_climbing_medium-dark_skin_tone=🧗🏾\u200d♂\ufe0f",
  "man_climbing_medium-light_skin_tone=🧗🏼\u200d♂\ufe0f",
  "man_climbing_medium_skin_tone=🧗🏽\u200d♂\ufe0f",
  "man_construction_worker=👷\u200d♂\ufe0f",
  "man_construction_worker_dark_skin_tone=👷🏿\u200d♂\ufe0f",
  "man_construction_worker_light_skin_tone=👷🏻\u200d♂\ufe0f",
  "man_construction_worker_medium-dark_skin_tone=👷🏾\u200d♂\ufe0f",
  "man_construction_worker_medium-light_skin_tone=👷🏼\u200d♂\ufe0f",
  "man_construction_worker_medium_skin_tone=👷🏽\u200d♂\ufe0f\nman_cook=👨\u200d🍳",
  "man_cook_dark_skin_tone=👨🏿\u200d🍳\nman_cook_light_skin_tone=👨🏻\u200d🍳",
  "man_cook_medium-dark_skin_tone=👨🏾\u200d🍳",
  "man_cook_medium-light_skin_tone=👨🏼\u200d🍳",
  "man_cook_medium_skin_tone=👨🏽\u200d🍳\nman_dancing=🕺",
  "man_dancing_dark_skin_tone=🕺🏿\nman_dancing_light_skin_tone=🕺🏻",
  "man_dancing_medium-dark_skin_tone=🕺🏾\nman_dancing_medium-light_skin_tone=🕺🏼",
  "man_dancing_medium_skin_tone=🕺🏽\nman_dark_skin_tone=👨🏿",
  "man_detective=🕵\ufe0f\u200d♂\ufe0f\nman_detective_dark_skin_tone=🕵🏿\u200d♂\ufe0f",
  "man_detective_light_skin_tone=🕵🏻\u200d♂\ufe0f",
  "man_detective_medium-dark_skin_tone=🕵🏾\u200d♂\ufe0f",
  "man_detective_medium-light_skin_tone=🕵🏼\u200d♂\ufe0f",
  "man_detective_medium_skin_tone=🕵🏽\u200d♂\ufe0f\nman_elf=🧝\u200d♂\ufe0f",
  "man_elf_dark_skin_tone=🧝🏿\u200d♂\ufe0f\nman_elf_light_skin_tone=🧝🏻\u200d♂\ufe0f",
  "man_elf_medium-dark_skin_tone=🧝🏾\u200d♂\ufe0f",
  "man_elf_medium-light_skin_tone=🧝🏼\u200d♂\ufe0f",
  "man_elf_medium_skin_tone=🧝🏽\u200d♂\ufe0f\nman_facepalming=🤦\u200d♂\ufe0f",
  "man_facepalming_dark_skin_tone=🤦🏿\u200d♂\ufe0f",
  "man_facepalming_light_skin_tone=🤦🏻\u200d♂\ufe0f",
  "man_facepalming_medium-dark_skin_tone=🤦🏾\u200d♂\ufe0f",
  "man_facepalming_medium-light_skin_tone=🤦🏼\u200d♂\ufe0f",
  "man_facepalming_medium_skin_tone=🤦🏽\u200d♂\ufe0f\nman_factory_worker=👨\u200d🏭",
  "man_factory_worker_dark_skin_tone=👨🏿\u200d🏭",
  "man_factory_worker_light_skin_tone=👨🏻\u200d🏭",
  "man_factory_worker_medium-dark_skin_tone=👨🏾\u200d🏭",
  "man_factory_worker_medium-light_skin_tone=👨🏼\u200d🏭",
  "man_factory_worker_medium_skin_tone=👨🏽\u200d🏭\nman_fairy=🧚\u200d♂\ufe0f",
  "man_fairy_dark_skin_tone=🧚🏿\u200d♂\ufe0f",
  "man_fairy_light_skin_tone=🧚🏻\u200d♂\ufe0f",
  "man_fairy_medium-dark_skin_tone=🧚🏾\u200d♂\ufe0f",
  "man_fairy_medium-light_skin_tone=🧚🏼\u200d♂\ufe0f",
  "man_fairy_medium_skin_tone=🧚🏽\u200d♂\ufe0f\nman_farmer=👨\u200d🌾",
  "man_farmer_dark_skin_tone=👨🏿\u200d🌾\nman_farmer_light_skin_tone=👨🏻\u200d🌾",
  "man_farmer_medium-dark_skin_tone=👨🏾\u200d🌾",
  "man_farmer_medium-light_skin_tone=👨🏼\u200d🌾",
  "man_farmer_medium_skin_tone=👨🏽\u200d🌾\nman_firefighter=👨\u200d🚒",
  "man_firefighter_dark_skin_tone=👨🏿\u200d🚒",
  "man_firefighter_light_skin_tone=👨🏻\u200d🚒",
  "man_firefighter_medium-dark_skin_tone=👨🏾\u200d🚒",
  "man_firefighter_medium-light_skin_tone=👨🏼\u200d🚒",
  "man_firefighter_medium_skin_tone=👨🏽\u200d🚒\nman_frowning=🙍\u200d♂\ufe0f",
  "man_frowning_dark_skin_tone=🙍🏿\u200d♂\ufe0f",
  "man_frowning_light_skin_tone=🙍🏻\u200d♂\ufe0f",
  "man_frowning_medium-dark_skin_tone=🙍🏾\u200d♂\ufe0f",
  "man_frowning_medium-light_skin_tone=🙍🏼\u200d♂\ufe0f",
  "man_frowning_medium_skin_tone=🙍🏽\u200d♂\ufe0f\nman_genie=🧞\u200d♂\ufe0f",
  "man_gesturing_no=🙅\u200d♂\ufe0f\nman_gesturing_no_dark_skin_tone=🙅🏿\u200d♂\ufe0f",
  "man_gesturing_no_light_skin_tone=🙅🏻\u200d♂\ufe0f",
  "man_gesturing_no_medium-dark_skin_tone=🙅🏾\u200d♂\ufe0f",
  "man_gesturing_no_medium-light_skin_tone=🙅🏼\u200d♂\ufe0f",
  "man_gesturing_no_medium_skin_tone=🙅🏽\u200d♂\ufe0f\nman_gesturing_ok=🙆\u200d♂\ufe0f",
  "man_gesturing_ok_dark_skin_tone=🙆🏿\u200d♂\ufe0f",
  "man_gesturing_ok_light_skin_tone=🙆🏻\u200d♂\ufe0f",
  "man_gesturing_ok_medium-dark_skin_tone=🙆🏾\u200d♂\ufe0f",
  "man_gesturing_ok_medium-light_skin_tone=🙆🏼\u200d♂\ufe0f",
  "man_gesturing_ok_medium_skin_tone=🙆🏽\u200d♂\ufe0f",
  "man_getting_haircut=💇\u200d♂\ufe0f",
  "man_getting_haircut_dark_skin_tone=💇🏿\u200d♂\ufe0f",
  "man_getting_haircut_light_skin_tone=💇🏻\u200d♂\ufe0f",
  "man_getting_haircut_medium-dark_skin_tone=💇🏾\u200d♂\ufe0f",
  "man_getting_haircut_medium-light_skin_tone=💇🏼\u200d♂\ufe0f",
  "man_getting_haircut_medium_skin_tone=💇🏽\u200d♂\ufe0f",
  "man_getting_massage=💆\u200d♂\ufe0f",
  "man_getting_massage_dark_skin_tone=💆🏿\u200d♂\ufe0f",
  "man_getting_massage_light_skin_tone=💆🏻\u200d♂\ufe0f",
  "man_getting_massage_medium-dark_skin_tone=💆🏾\u200d♂\ufe0f",
  "man_getting_massage_medium-light_skin_tone=💆🏼\u200d♂\ufe0f",
  "man_getting_massage_medium_skin_tone=💆🏽\u200d♂\ufe0f",
  "man_golfing=🏌\ufe0f\u200d♂\ufe0f\nman_golfing_dark_skin_tone=🏌🏿\u200d♂\ufe0f",
  "man_golfing_light_skin_tone=🏌🏻\u200d♂\ufe0f",
  "man_golfing_medium-dark_skin_tone=🏌🏾\u200d♂\ufe0f",
  "man_golfing_medium-light_skin_tone=🏌🏼\u200d♂\ufe0f",
  "man_golfing_medium_skin_tone=🏌🏽\u200d♂\ufe0f\nman_guard=💂\u200d♂\ufe0f",
  "man_guard_dark_skin_tone=💂🏿\u200d♂\ufe0f",
  "man_guard_light_skin_tone=💂🏻\u200d♂\ufe0f",
  "man_guard_medium-dark_skin_tone=💂🏾\u200d♂\ufe0f",
  "man_guard_medium-light_skin_tone=💂🏼\u200d♂\ufe0f",
  "man_guard_medium_skin_tone=💂🏽\u200d♂\ufe0f\nman_health_worker=👨\u200d⚕\ufe0f",
  "man_health_worker_dark_skin_tone=👨🏿\u200d⚕\ufe0f",
  "man_health_worker_light_skin_tone=👨🏻\u200d⚕\ufe0f",
  "man_health_worker_medium-dark_skin_tone=👨🏾\u200d⚕\ufe0f",
  "man_health_worker_medium-light_skin_tone=👨🏼\u200d⚕\ufe0f",
  "man_health_worker_medium_skin_tone=👨🏽\u200d⚕\ufe0f",
  "man_in_business_suit_levitating=🕴\nman_in_lotus_position=🧘\u200d♂\ufe0f",
  "man_in_lotus_position_dark_skin_tone=🧘🏿\u200d♂\ufe0f",
  "man_in_lotus_position_light_skin_tone=🧘🏻\u200d♂\ufe0f",
  "man_in_lotus_position_medium-dark_skin_tone=🧘🏾\u200d♂\ufe0f",
  "man_in_lotus_position_medium-light_skin_tone=🧘🏼\u200d♂\ufe0f",
  "man_in_lotus_position_medium_skin_tone=🧘🏽\u200d♂\ufe0f",
  "man_in_manual_wheelchair=👨\u200d🦽\nman_in_motorized_wheelchair=👨\u200d🦼",
  "man_in_steamy_room=🧖\u200d♂\ufe0f",
  "man_in_steamy_room_dark_skin_tone=🧖🏿\u200d♂\ufe0f",
  "man_in_steamy_room_light_skin_tone=🧖🏻\u200d♂\ufe0f",
  "man_in_steamy_room_medium-dark_skin_tone=🧖🏾\u200d♂\ufe0f",
  "man_in_steamy_room_medium-light_skin_tone=🧖🏼\u200d♂\ufe0f",
  "man_in_steamy_room_medium_skin_tone=🧖🏽\u200d♂\ufe0f\nman_in_suit_levitating=🕴",
  "man_in_suit_levitating_dark_skin_tone=🕴🏿\nman_in_suit_levitating_light_skin_tone=🕴🏻",
  "man_in_suit_levitating_medium-dark_skin_tone=🕴🏾",
  "man_in_suit_levitating_medium-light_skin_tone=🕴🏼",
  "man_in_suit_levitating_medium_skin_tone=🕴🏽\nman_in_tuxedo=🤵",
  "man_in_tuxedo_dark_skin_tone=🤵🏿\nman_in_tuxedo_light_skin_tone=🤵🏻",
  "man_in_tuxedo_medium-dark_skin_tone=🤵🏾\nman_in_tuxedo_medium-light_skin_tone=🤵🏼",
  "man_in_tuxedo_medium_skin_tone=🤵🏽\nman_judge=👨\u200d⚖\ufe0f",
  "man_judge_dark_skin_tone=👨🏿\u200d⚖\ufe0f",
  "man_judge_light_skin_tone=👨🏻\u200d⚖\ufe0f",
  "man_judge_medium-dark_skin_tone=👨🏾\u200d⚖\ufe0f",
  "man_judge_medium-light_skin_tone=👨🏼\u200d⚖\ufe0f",
  "man_judge_medium_skin_tone=👨🏽\u200d⚖\ufe0f\nman_juggling=🤹\u200d♂\ufe0f",
  "man_juggling_dark_skin_tone=🤹🏿\u200d♂\ufe0f",
  "man_juggling_light_skin_tone=🤹🏻\u200d♂\ufe0f",
  "man_juggling_medium-dark_skin_tone=🤹🏾\u200d♂\ufe0f",
  "man_juggling_medium-light_skin_tone=🤹🏼\u200d♂\ufe0f",
  "man_juggling_medium_skin_tone=🤹🏽\u200d♂\ufe0f",
  "man_lifting_weights=🏋\ufe0f\u200d♂\ufe0f",
  "man_lifting_weights_dark_skin_tone=🏋🏿\u200d♂\ufe0f",
  "man_lifting_weights_light_skin_tone=🏋🏻\u200d♂\ufe0f",
  "man_lifting_weights_medium-dark_skin_tone=🏋🏾\u200d♂\ufe0f",
  "man_lifting_weights_medium-light_skin_tone=🏋🏼\u200d♂\ufe0f",
  "man_lifting_weights_medium_skin_tone=🏋🏽\u200d♂\ufe0f\nman_light_skin_tone=👨🏻",
  "man_mage=🧙\u200d♂\ufe0f\nman_mage_dark_skin_tone=🧙🏿\u200d♂\ufe0f",
  "man_mage_light_skin_tone=🧙🏻\u200d♂\ufe0f",
  "man_mage_medium-dark_skin_tone=🧙🏾\u200d♂\ufe0f",
  "man_mage_medium-light_skin_tone=🧙🏼\u200d♂\ufe0f",
  "man_mage_medium_skin_tone=🧙🏽\u200d♂\ufe0f\nman_mechanic=👨\u200d🔧",
  "man_mechanic_dark_skin_tone=👨🏿\u200d🔧\nman_mechanic_light_skin_tone=👨🏻\u200d🔧",
  "man_mechanic_medium-dark_skin_tone=👨🏾\u200d🔧",
  "man_mechanic_medium-light_skin_tone=👨🏼\u200d🔧",
  "man_mechanic_medium_skin_tone=👨🏽\u200d🔧\nman_medium-dark_skin_tone=👨🏾",
  "man_medium-light_skin_tone=👨🏼\nman_medium_skin_tone=👨🏽",
  "man_mountain_biking=🚵\u200d♂\ufe0f",
  "man_mountain_biking_dark_skin_tone=🚵🏿\u200d♂\ufe0f",
  "man_mountain_biking_light_skin_tone=🚵🏻\u200d♂\ufe0f",
  "man_mountain_biking_medium-dark_skin_tone=🚵🏾\u200d♂\ufe0f",
  "man_mountain_biking_medium-light_skin_tone=🚵🏼\u200d♂\ufe0f",
  "man_mountain_biking_medium_skin_tone=🚵🏽\u200d♂\ufe0f\nman_office_worker=👨\u200d💼",
  "man_office_worker_dark_skin_tone=👨🏿\u200d💼",
  "man_office_worker_light_skin_tone=👨🏻\u200d💼",
  "man_office_worker_medium-dark_skin_tone=👨🏾\u200d💼",
  "man_office_worker_medium-light_skin_tone=👨🏼\u200d💼",
  "man_office_worker_medium_skin_tone=👨🏽\u200d💼\nman_pilot=👨\u200d✈\ufe0f",
  "man_pilot_dark_skin_tone=👨🏿\u200d✈\ufe0f",
  "man_pilot_light_skin_tone=👨🏻\u200d✈\ufe0f",
  "man_pilot_medium-dark_skin_tone=👨🏾\u200d✈\ufe0f",
  "man_pilot_medium-light_skin_tone=👨🏼\u200d✈\ufe0f",
  "man_pilot_medium_skin_tone=👨🏽\u200d✈\ufe0f\nman_playing_handball=🤾\u200d♂\ufe0f",
  "man_playing_handball_dark_skin_tone=🤾🏿\u200d♂\ufe0f",
  "man_playing_handball_light_skin_tone=🤾🏻\u200d♂\ufe0f",
  "man_playing_handball_medium-dark_skin_tone=🤾🏾\u200d♂\ufe0f",
  "man_playing_handball_medium-light_skin_tone=🤾🏼\u200d♂\ufe0f",
  "man_playing_handball_medium_skin_tone=🤾🏽\u200d♂\ufe0f",
  "man_playing_water_polo=🤽\u200d♂\ufe0f",
  "man_playing_water_polo_dark_skin_tone=🤽🏿\u200d♂\ufe0f",
  "man_playing_water_polo_light_skin_tone=🤽🏻\u200d♂\ufe0f",
  "man_playing_water_polo_medium-dark_skin_tone=🤽🏾\u200d♂\ufe0f",
  "man_playing_water_polo_medium-light_skin_tone=🤽🏼\u200d♂\ufe0f",
  "man_playing_water_polo_medium_skin_tone=🤽🏽\u200d♂\ufe0f",
  "man_police_officer=👮\u200d♂\ufe0f",
  "man_police_officer_dark_skin_tone=👮🏿\u200d♂\ufe0f",
  "man_police_officer_light_skin_tone=👮🏻\u200d♂\ufe0f",
  "man_police_officer_medium-dark_skin_tone=👮🏾\u200d♂\ufe0f",
  "man_police_officer_medium-light_skin_tone=👮🏼\u200d♂\ufe0f",
  "man_police_officer_medium_skin_tone=👮🏽\u200d♂\ufe0f\nman_pouting=🙎\u200d♂\ufe0f",
  "man_pouting_dark_skin_tone=🙎🏿\u200d♂\ufe0f",
  "man_pouting_light_skin_tone=🙎🏻\u200d♂\ufe0f",
  "man_pouting_medium-dark_skin_tone=🙎🏾\u200d♂\ufe0f",
  "man_pouting_medium-light_skin_tone=🙎🏼\u200d♂\ufe0f",
  "man_pouting_medium_skin_tone=🙎🏽\u200d♂\ufe0f\nman_raising_hand=🙋\u200d♂\ufe0f",
  "man_raising_hand_dark_skin_tone=🙋🏿\u200d♂\ufe0f",
  "man_raising_hand_light_skin_tone=🙋🏻\u200d♂\ufe0f",
  "man_raising_hand_medium-dark_skin_tone=🙋🏾\u200d♂\ufe0f",
  "man_raising_hand_medium-light_skin_tone=🙋🏼\u200d♂\ufe0f",
  "man_raising_hand_medium_skin_tone=🙋🏽\u200d♂\ufe0f\nman_rowing_boat=🚣\u200d♂\ufe0f",
  "man_rowing_boat_dark_skin_tone=🚣🏿\u200d♂\ufe0f",
  "man_rowing_boat_light_skin_tone=🚣🏻\u200d♂\ufe0f",
  "man_rowing_boat_medium-dark_skin_tone=🚣🏾\u200d♂\ufe0f",
  "man_rowing_boat_medium-light_skin_tone=🚣🏼\u200d♂\ufe0f",
  "man_rowing_boat_medium_skin_tone=🚣🏽\u200d♂\ufe0f\nman_running=🏃\u200d♂\ufe0f",
  "man_running_dark_skin_tone=🏃🏿\u200d♂\ufe0f",
  "man_running_light_skin_tone=🏃🏻\u200d♂\ufe0f",
  "man_running_medium-dark_skin_tone=🏃🏾\u200d♂\ufe0f",
  "man_running_medium-light_skin_tone=🏃🏼\u200d♂\ufe0f",
  "man_running_medium_skin_tone=🏃🏽\u200d♂\ufe0f\nman_scientist=👨\u200d🔬",
  "man_scientist_dark_skin_tone=👨🏿\u200d🔬",
  "man_scientist_light_skin_tone=👨🏻\u200d🔬",
  "man_scientist_medium-dark_skin_tone=👨🏾\u200d🔬",
  "man_scientist_medium-light_skin_tone=👨🏼\u200d🔬",
  "man_scientist_medium_skin_tone=👨🏽\u200d🔬\nman_shrugging=🤷\u200d♂\ufe0f",
  "man_shrugging_dark_skin_tone=🤷🏿\u200d♂\ufe0f",
  "man_shrugging_light_skin_tone=🤷🏻\u200d♂\ufe0f",
  "man_shrugging_medium-dark_skin_tone=🤷🏾\u200d♂\ufe0f",
  "man_shrugging_medium-light_skin_tone=🤷🏼\u200d♂\ufe0f",
  "man_shrugging_medium_skin_tone=🤷🏽\u200d♂\ufe0f\nman_singer=👨\u200d🎤",
  "man_singer_dark_skin_tone=👨🏿\u200d🎤\nman_singer_light_skin_tone=👨🏻\u200d🎤",
  "man_singer_medium-dark_skin_tone=👨🏾\u200d🎤",
  "man_singer_medium-light_skin_tone=👨🏼\u200d🎤",
  "man_singer_medium_skin_tone=👨🏽\u200d🎤\nman_student=👨\u200d🎓",
  "man_student_dark_skin_tone=👨🏿\u200d🎓\nman_student_light_skin_tone=👨🏻\u200d🎓",
  "man_student_medium-dark_skin_tone=👨🏾\u200d🎓",
  "man_student_medium-light_skin_tone=👨🏼\u200d🎓",
  "man_student_medium_skin_tone=👨🏽\u200d🎓\nman_surfing=🏄\u200d♂\ufe0f",
  "man_surfing_dark_skin_tone=🏄🏿\u200d♂\ufe0f",
  "man_surfing_light_skin_tone=🏄🏻\u200d♂\ufe0f",
  "man_surfing_medium-dark_skin_tone=🏄🏾\u200d♂\ufe0f",
  "man_surfing_medium-light_skin_tone=🏄🏼\u200d♂\ufe0f",
  "man_surfing_medium_skin_tone=🏄🏽\u200d♂\ufe0f\nman_swimming=🏊\u200d♂\ufe0f",
  "man_swimming_dark_skin_tone=🏊🏿\u200d♂\ufe0f",
  "man_swimming_light_skin_tone=🏊🏻\u200d♂\ufe0f",
  "man_swimming_medium-dark_skin_tone=🏊🏾\u200d♂\ufe0f",
  "man_swimming_medium-light_skin_tone=🏊🏼\u200d♂\ufe0f",
  "man_swimming_medium_skin_tone=🏊🏽\u200d♂\ufe0f\nman_teacher=👨\u200d🏫",
  "man_teacher_dark_skin_tone=👨🏿\u200d🏫\nman_teacher_light_skin_tone=👨🏻\u200d🏫",
  "man_teacher_medium-dark_skin_tone=👨🏾\u200d🏫",
  "man_teacher_medium-light_skin_tone=👨🏼\u200d🏫",
  "man_teacher_medium_skin_tone=👨🏽\u200d🏫\nman_technologist=👨\u200d💻",
  "man_technologist_dark_skin_tone=👨🏿\u200d💻",
  "man_technologist_light_skin_tone=👨🏻\u200d💻",
  "man_technologist_medium-dark_skin_tone=👨🏾\u200d💻",
  "man_technologist_medium-light_skin_tone=👨🏼\u200d💻",
  "man_technologist_medium_skin_tone=👨🏽\u200d💻\nman_tipping_hand=💁\u200d♂\ufe0f",
  "man_tipping_hand_dark_skin_tone=💁🏿\u200d♂\ufe0f",
  "man_tipping_hand_light_skin_tone=💁🏻\u200d♂\ufe0f",
  "man_tipping_hand_medium-dark_skin_tone=💁🏾\u200d♂\ufe0f",
  "man_tipping_hand_medium-light_skin_tone=💁🏼\u200d♂\ufe0f",
  "man_tipping_hand_medium_skin_tone=💁🏽\u200d♂\ufe0f\nman_vampire=🧛\u200d♂\ufe0f",
  "man_vampire_dark_skin_tone=🧛🏿\u200d♂\ufe0f",
  "man_vampire_light_skin_tone=🧛🏻\u200d♂\ufe0f",
  "man_vampire_medium-dark_skin_tone=🧛🏾\u200d♂\ufe0f",
  "man_vampire_medium-light_skin_tone=🧛🏼\u200d♂\ufe0f",
  "man_vampire_medium_skin_tone=🧛🏽\u200d♂\ufe0f\nman_walking=🚶\u200d♂\ufe0f",
  "man_walking_dark_skin_tone=🚶🏿\u200d♂\ufe0f",
  "man_walking_light_skin_tone=🚶🏻\u200d♂\ufe0f",
  "man_walking_medium-dark_skin_tone=🚶🏾\u200d♂\ufe0f",
  "man_walking_medium-light_skin_tone=🚶🏼\u200d♂\ufe0f",
  "man_walking_medium_skin_tone=🚶🏽\u200d♂\ufe0f\nman_wearing_turban=👳\u200d♂\ufe0f",
  "man_wearing_turban_dark_skin_tone=👳🏿\u200d♂\ufe0f",
  "man_wearing_turban_light_skin_tone=👳🏻\u200d♂\ufe0f",
  "man_wearing_turban_medium-dark_skin_tone=👳🏾\u200d♂\ufe0f",
  "man_wearing_turban_medium-light_skin_tone=👳🏼\u200d♂\ufe0f",
  "man_wearing_turban_medium_skin_tone=👳🏽\u200d♂\ufe0f\nman_with_chinese_cap=👲",
  "man_with_chinese_cap_dark_skin_tone=👲🏿\nman_with_chinese_cap_light_skin_tone=👲🏻",
  "man_with_chinese_cap_medium-dark_skin_tone=👲🏾",
  "man_with_chinese_cap_medium-light_skin_tone=👲🏼",
  "man_with_chinese_cap_medium_skin_tone=👲🏽\nman_with_gua_pi_mao=👲",
  "man_with_probing_cane=👨\u200d🦯\nman_with_turban=👳\nman_zombie=🧟\u200d♂\ufe0f",
  "mango=🥭\nmans_shoe=👞\nmantelpiece_clock=🕰\nmanual_wheelchair=🦽\nman’s_shoe=👞",
  "map_of_japan=🗾\nmaple_leaf=🍁\nmarshall_islands=🇲🇭\nmartial_arts_uniform=🥋",
  "martinique=🇲🇶\nmask=😷\nmassage=💆\nmate=🧉\nmauritania=🇲🇷",
  "mauritius=🇲🇺\nmayotte=🇾🇹\nmeat_on_bone=🍖\nmechanical_arm=🦾",
  "mechanical_leg=🦿\nmedical_symbol=⚕\nmedium_dark_skin_tone=🏾",
  "medium_light_skin_tone=🏼\nmedium_skin_tone=🏽\nmega=📣\nmegaphone=📣\nmelon=🍈",
  "memo=📝\nmen_with_bunny_ears=👯\u200d♂\ufe0f\nmen_wrestling=🤼\u200d♂\ufe0f",
  "menorah=🕎\nmenorah_with_nine_branches=🕎\nmens=🚹\nmen’s_room=🚹",
  "mermaid=🧜\u200d♀\ufe0f\nmermaid_dark_skin_tone=🧜🏿\u200d♀\ufe0f",
  "mermaid_light_skin_tone=🧜🏻\u200d♀\ufe0f",
  "mermaid_medium-dark_skin_tone=🧜🏾\u200d♀\ufe0f",
  "mermaid_medium-light_skin_tone=🧜🏼\u200d♀\ufe0f",
  "mermaid_medium_skin_tone=🧜🏽\u200d♀\ufe0f\nmerman=🧜\u200d♂\ufe0f",
  "merman_dark_skin_tone=🧜🏿\u200d♂\ufe0f\nmerman_light_skin_tone=🧜🏻\u200d♂\ufe0f",
  "merman_medium-dark_skin_tone=🧜🏾\u200d♂\ufe0f",
  "merman_medium-light_skin_tone=🧜🏼\u200d♂\ufe0f",
  "merman_medium_skin_tone=🧜🏽\u200d♂\ufe0f\nmerperson=🧜",
  "merperson_dark_skin_tone=🧜🏿\nmerperson_light_skin_tone=🧜🏻",
  "merperson_medium-dark_skin_tone=🧜🏾\nmerperson_medium-light_skin_tone=🧜🏼",
  "merperson_medium_skin_tone=🧜🏽\nmetro=🚇\nmexico=🇲🇽\nmicrobe=🦠",
  "micronesia=🇫🇲\nmicrophone=🎤\nmicroscope=🔬\nmiddle_finger=🖕",
  "middle_finger_dark_skin_tone=🖕🏿\nmiddle_finger_light_skin_tone=🖕🏻",
  "middle_finger_medium-dark_skin_tone=🖕🏾\nmiddle_finger_medium-light_skin_tone=🖕🏼",
  "middle_finger_medium_skin_tone=🖕🏽\nmilitary_medal=🎖\nmilky_way=🌌\nminibus=🚐",
  "minidisc=💽\nmoai=🗿\nmobile_phone=📱\nmobile_phone_off=📴",
  "mobile_phone_with_arrow=📲\nmoldova=🇲🇩\nmonaco=🇲🇨\nmoney-mouth_face=🤑",
  "money__mouth_face=🤑\nmoney_bag=💰\nmoney_with_wings=💸\nmoneybag=💰\nmongolia=🇲🇳",
  "monkey=🐒\nmonkey_face=🐵\nmonorail=🚝\nmontenegro=🇲🇪\nmontserrat=🇲🇸",
  "moon=🌔\nmoon_cake=🥮\nmoon_viewing_ceremony=🎑\nmorocco=🇲🇦\nmortar_board=🎓",
  "mosque=🕌\nmosquito=🦟\nmotor_boat=🛥\nmotor_scooter=🛵\nmotorcycle=🏍",
  "motorized_wheelchair=🦼\nmotorway=🛣\nmount_fuji=🗻\nmountain=⛰",
  "mountain_bicyclist=🚵\nmountain_cableway=🚠\nmountain_railway=🚞\nmouse=🐭\nmouse2=🐁",
  "mouse_face=🐭\nmouth=👄\nmovie_camera=🎥\nmoyai=🗿\nmozambique=🇲🇿",
  "mrs._claus=🤶\nmrs._claus_dark_skin_tone=🤶🏿\nmrs._claus_light_skin_tone=🤶🏻",
  "mrs._claus_medium-dark_skin_tone=🤶🏾\nmrs._claus_medium-light_skin_tone=🤶🏼",
  "mrs._claus_medium_skin_tone=🤶🏽\nmuscle=💪\nmushroom=🍄\nmusical_keyboard=🎹",
  "musical_note=🎵\nmusical_notes=🎶\nmusical_score=🎼\nmute=🔇\nmuted_speaker=🔇",
  "myanmar_(burma)=🇲🇲\nnail_care=💅\nnail_polish=💅\nnail_polish_dark_skin_tone=💅🏿",
  "nail_polish_light_skin_tone=💅🏻\nnail_polish_medium-dark_skin_tone=💅🏾",
  "nail_polish_medium-light_skin_tone=💅🏼\nnail_polish_medium_skin_tone=💅🏽",
  "name_badge=📛\nnamibia=🇳🇦\nnational_park=🏞\nnauru=🇳🇷\nnauseated_face=🤢",
  "nazar_amulet=🧿\nnecktie=👔\nnegative_squared_cross_mark=❎\nnepal=🇳🇵",
  "nerd_face=🤓\nnetherlands=🇳🇱\nneutral_face=😐\nnew=🆕\nnew_button=🆕",
  "new_caledonia=🇳🇨\nnew_moon=🌑\nnew_moon_face=🌚\nnew_moon_with_face=🌚",
  "new_zealand=🇳🇿\nnewspaper=📰\nnext_track_button=⏭\nng=🆖\nng_button=🆖",
  "nicaragua=🇳🇮\nniger=🇳🇪\nnigeria=🇳🇬\nnight_with_stars=🌃\nnine=9\ufe0f\u20e3",
  "nine-thirty=🕤\nnine_o’clock=🕘\nniue=🇳🇺\nno_bell=🔕\nno_bicycles=🚳",
  "no_entry=⛔\nno_entry_sign=🚫\nno_good=🙅\nno_littering=🚯\nno_mobile_phones=📵",
  "no_mouth=😶\nno_one_under_eighteen=🔞\nno_pedestrians=🚷\nno_smoking=🚭",
  "non-potable_water=🚱\nnon__potable_water=🚱\nnorfolk_island=🇳🇫\nnorth_korea=🇰🇵",
  "northern_mariana_islands=🇲🇵\nnorway=🇳🇴\nnose=👃\nnose_dark_skin_tone=👃🏿",
  "nose_light_skin_tone=👃🏻\nnose_medium-dark_skin_tone=👃🏾",
  "nose_medium-light_skin_tone=👃🏼\nnose_medium_skin_tone=👃🏽\nnotebook=📓",
  "notebook_with_decorative_cover=📔\nnotes=🎶\nnut_and_bolt=🔩\no=⭕\no2=🅾",
  "o_button_(blood_type)=🅾\nocean=🌊\noctopus=🐙\noden=🍢\noffice=🏢",
  "office_building=🏢\nogre=👹\noil_drum=🛢\nok=🆗\nok_button=🆗\nok_hand=👌",
  "ok_hand_dark_skin_tone=👌🏿\nok_hand_light_skin_tone=👌🏻",
  "ok_hand_medium-dark_skin_tone=👌🏾\nok_hand_medium-light_skin_tone=👌🏼",
  "ok_hand_medium_skin_tone=👌🏽\nok_woman=🙆\nold_key=🗝\nold_man=👴",
  "old_man_dark_skin_tone=👴🏿\nold_man_light_skin_tone=👴🏻",
  "old_man_medium-dark_skin_tone=👴🏾\nold_man_medium-light_skin_tone=👴🏼",
  "old_man_medium_skin_tone=👴🏽\nold_woman=👵\nold_woman_dark_skin_tone=👵🏿",
  "old_woman_light_skin_tone=👵🏻\nold_woman_medium-dark_skin_tone=👵🏾",
  "old_woman_medium-light_skin_tone=👵🏼\nold_woman_medium_skin_tone=👵🏽",
  "older_adult=🧓\nolder_adult_dark_skin_tone=🧓🏿\nolder_adult_light_skin_tone=🧓🏻",
  "older_adult_medium-dark_skin_tone=🧓🏾\nolder_adult_medium-light_skin_tone=🧓🏼",
  "older_adult_medium_skin_tone=🧓🏽\nolder_man=👴\nolder_woman=👵\nom=🕉",
  "om_symbol=🕉\noman=🇴🇲\non=🔛\non!_arrow=🔛\noncoming_automobile=🚘",
  "oncoming_bus=🚍\noncoming_fist=👊\noncoming_fist_dark_skin_tone=👊🏿",
  "oncoming_fist_light_skin_tone=👊🏻\noncoming_fist_medium-dark_skin_tone=👊🏾",
  "oncoming_fist_medium-light_skin_tone=👊🏼\noncoming_fist_medium_skin_tone=👊🏽",
  "oncoming_police_car=🚔\noncoming_taxi=🚖\none=1\ufe0f\u20e3\none-piece_swimsuit=🩱",
  "one-thirty=🕜\none_o’clock=🕐\nonion=🧅\nopen_book=📖\nopen_file_folder=📂",
  "open_hands=👐\nopen_hands_dark_skin_tone=👐🏿\nopen_hands_light_skin_tone=👐🏻",
  "open_hands_medium-dark_skin_tone=👐🏾\nopen_hands_medium-light_skin_tone=👐🏼",
  "open_hands_medium_skin_tone=👐🏽\nopen_mailbox_with_lowered_flag=📭",
  "open_mailbox_with_raised_flag=📬\nopen_mouth=😮\nophiuchus=⛎\noptical_disk=💿",
  "orange_book=📙\norange_circle=🟠\norange_heart=🧡\norange_square=🟧\norangutan=🦧",
  "orthodox_cross=☦\notter=🦦\noutbox_tray=📤\nowl=🦉\nox=🐂\noyster=🦪\np_button=🅿",
  "package=📦\npage_facing_up=📄\npage_with_curl=📃\npager=📟\npaintbrush=🖌",
  "pakistan=🇵🇰\npalau=🇵🇼\npalestinian_territories=🇵🇸\npalm_tree=🌴",
  "palms_up_together=🤲\npalms_up_together_dark_skin_tone=🤲🏿",
  "palms_up_together_light_skin_tone=🤲🏻\npalms_up_together_medium-dark_skin_tone=🤲🏾",
  "palms_up_together_medium-light_skin_tone=🤲🏼\npalms_up_together_medium_skin_tone=🤲🏽",
  "panama=🇵🇦\npancakes=🥞\npanda_face=🐼\npaperclip=📎\npapua_new_guinea=🇵🇬",
  "paraguay=🇵🇾\nparking=🅿\nparrot=🦜\npart_alternation_mark=〽\npartly_sunny=⛅",
  "party_popper=🎉\npartying_face=🥳\npassenger_ship=🛳\npassport_control=🛂",
  "pause_button=⏸\npaw_prints=🐾\npeace_symbol=☮\npeach=🍑\npeacock=🦚\npeanuts=🥜",
  "pear=🍐\npen=🖊\npencil=📝\npencil2=✏\npenguin=🐧\npensive=😔\npensive_face=😔",
  "people_holding_hands=🧑\u200d🤝\u200d🧑\npeople_with_bunny_ears=👯",
  "people_wrestling=🤼\nperforming_arts=🎭\npersevere=😣\npersevering_face=😣",
  "person_biking=🚴\nperson_biking_dark_skin_tone=🚴🏿",
  "person_biking_light_skin_tone=🚴🏻\nperson_biking_medium-dark_skin_tone=🚴🏾",
  "person_biking_medium-light_skin_tone=🚴🏼\nperson_biking_medium_skin_tone=🚴🏽",
  "person_bouncing_ball=⛹\nperson_bouncing_ball_dark_skin_tone=⛹🏿",
  "person_bouncing_ball_light_skin_tone=⛹🏻",
  "person_bouncing_ball_medium-dark_skin_tone=⛹🏾",
  "person_bouncing_ball_medium-light_skin_tone=⛹🏼",
  "person_bouncing_ball_medium_skin_tone=⛹🏽\nperson_bowing=🙇",
  "person_bowing_dark_skin_tone=🙇🏿\nperson_bowing_light_skin_tone=🙇🏻",
  "person_bowing_medium-dark_skin_tone=🙇🏾\nperson_bowing_medium-light_skin_tone=🙇🏼",
  "person_bowing_medium_skin_tone=🙇🏽\nperson_cartwheeling=🤸",
  "person_cartwheeling_dark_skin_tone=🤸🏿\nperson_cartwheeling_light_skin_tone=🤸🏻",
  "person_cartwheeling_medium-dark_skin_tone=🤸🏾",
  "person_cartwheeling_medium-light_skin_tone=🤸🏼",
  "person_cartwheeling_medium_skin_tone=🤸🏽\nperson_climbing=🧗",
  "person_climbing_dark_skin_tone=🧗🏿\nperson_climbing_light_skin_tone=🧗🏻",
  "person_climbing_medium-dark_skin_tone=🧗🏾\nperson_climbing_medium-light_skin_tone=🧗🏼",
  "person_climbing_medium_skin_tone=🧗🏽\nperson_facepalming=🤦",
  "person_facepalming_dark_skin_tone=🤦🏿\nperson_facepalming_light_skin_tone=🤦🏻",
  "person_facepalming_medium-dark_skin_tone=🤦🏾",
  "person_facepalming_medium-light_skin_tone=🤦🏼",
  "person_facepalming_medium_skin_tone=🤦🏽\nperson_fencing=🤺\nperson_frowning=🙍",
  "person_frowning_dark_skin_tone=🙍🏿\nperson_frowning_light_skin_tone=🙍🏻",
  "person_frowning_medium-dark_skin_tone=🙍🏾\nperson_frowning_medium-light_skin_tone=🙍🏼",
  "person_frowning_medium_skin_tone=🙍🏽\nperson_gesturing_no=🙅",
  "person_gesturing_no_dark_skin_tone=🙅🏿\nperson_gesturing_no_light_skin_tone=🙅🏻",
  "person_gesturing_no_medium-dark_skin_tone=🙅🏾",
  "person_gesturing_no_medium-light_skin_tone=🙅🏼",
  "person_gesturing_no_medium_skin_tone=🙅🏽\nperson_gesturing_ok=🙆",
  "person_gesturing_ok_dark_skin_tone=🙆🏿\nperson_gesturing_ok_light_skin_tone=🙆🏻",
  "person_gesturing_ok_medium-dark_skin_tone=🙆🏾",
  "person_gesturing_ok_medium-light_skin_tone=🙆🏼",
  "person_gesturing_ok_medium_skin_tone=🙆🏽\nperson_getting_haircut=💇",
  "person_getting_haircut_dark_skin_tone=💇🏿\nperson_getting_haircut_light_skin_tone=💇🏻",
  "person_getting_haircut_medium-dark_skin_tone=💇🏾",
  "person_getting_haircut_medium-light_skin_tone=💇🏼",
  "person_getting_haircut_medium_skin_tone=💇🏽\nperson_getting_massage=💆",
  "person_getting_massage_dark_skin_tone=💆🏿\nperson_getting_massage_light_skin_tone=💆🏻",
  "person_getting_massage_medium-dark_skin_tone=💆🏾",
  "person_getting_massage_medium-light_skin_tone=💆🏼",
  "person_getting_massage_medium_skin_tone=💆🏽\nperson_golfing=🏌",
  "person_golfing_dark_skin_tone=🏌🏿\nperson_golfing_light_skin_tone=🏌🏻",
  "person_golfing_medium-dark_skin_tone=🏌🏾\nperson_golfing_medium-light_skin_tone=🏌🏼",
  "person_golfing_medium_skin_tone=🏌🏽\nperson_in_bed=🛌",
  "person_in_bed_dark_skin_tone=🛌🏿\nperson_in_bed_light_skin_tone=🛌🏻",
  "person_in_bed_medium-dark_skin_tone=🛌🏾\nperson_in_bed_medium-light_skin_tone=🛌🏼",
  "person_in_bed_medium_skin_tone=🛌🏽\nperson_in_lotus_position=🧘",
  "person_in_lotus_position_dark_skin_tone=🧘🏿",
  "person_in_lotus_position_light_skin_tone=🧘🏻",
  "person_in_lotus_position_medium-dark_skin_tone=🧘🏾",
  "person_in_lotus_position_medium-light_skin_tone=🧘🏼",
  "person_in_lotus_position_medium_skin_tone=🧘🏽\nperson_in_steamy_room=🧖",
  "person_in_steamy_room_dark_skin_tone=🧖🏿\nperson_in_steamy_room_light_skin_tone=🧖🏻",
  "person_in_steamy_room_medium-dark_skin_tone=🧖🏾",
  "person_in_steamy_room_medium-light_skin_tone=🧖🏼",
  "person_in_steamy_room_medium_skin_tone=🧖🏽\nperson_juggling=🤹",
  "person_juggling_dark_skin_tone=🤹🏿\nperson_juggling_light_skin_tone=🤹🏻",
  "person_juggling_medium-dark_skin_tone=🤹🏾\nperson_juggling_medium-light_skin_tone=🤹🏼",
  "person_juggling_medium_skin_tone=🤹🏽\nperson_kneeling=🧎\nperson_lifting_weights=🏋",
  "person_lifting_weights_dark_skin_tone=🏋🏿\nperson_lifting_weights_light_skin_tone=🏋🏻",
  "person_lifting_weights_medium-dark_skin_tone=🏋🏾",
  "person_lifting_weights_medium-light_skin_tone=🏋🏼",
  "person_lifting_weights_medium_skin_tone=🏋🏽\nperson_mountain_biking=🚵",
  "person_mountain_biking_dark_skin_tone=🚵🏿\nperson_mountain_biking_light_skin_tone=🚵🏻",
  "person_mountain_biking_medium-dark_skin_tone=🚵🏾",
  "person_mountain_biking_medium-light_skin_tone=🚵🏼",
  "person_mountain_biking_medium_skin_tone=🚵🏽\nperson_playing_handball=🤾",
  "person_playing_handball_dark_skin_tone=🤾🏿",
  "person_playing_handball_light_skin_tone=🤾🏻",
  "person_playing_handball_medium-dark_skin_tone=🤾🏾",
  "person_playing_handball_medium-light_skin_tone=🤾🏼",
  "person_playing_handball_medium_skin_tone=🤾🏽\nperson_playing_water_polo=🤽",
  "person_playing_water_polo_dark_skin_tone=🤽🏿",
  "person_playing_water_polo_light_skin_tone=🤽🏻",
  "person_playing_water_polo_medium-dark_skin_tone=🤽🏾",
  "person_playing_water_polo_medium-light_skin_tone=🤽🏼",
  "person_playing_water_polo_medium_skin_tone=🤽🏽\nperson_pouting=🙎",
  "person_pouting_dark_skin_tone=🙎🏿\nperson_pouting_light_skin_tone=🙎🏻",
  "person_pouting_medium-dark_skin_tone=🙎🏾\nperson_pouting_medium-light_skin_tone=🙎🏼",
  "person_pouting_medium_skin_tone=🙎🏽\nperson_raising_hand=🙋",
  "person_raising_hand_dark_skin_tone=🙋🏿\nperson_raising_hand_light_skin_tone=🙋🏻",
  "person_raising_hand_medium-dark_skin_tone=🙋🏾",
  "person_raising_hand_medium-light_skin_tone=🙋🏼",
  "person_raising_hand_medium_skin_tone=🙋🏽\nperson_rowing_boat=🚣",
  "person_rowing_boat_dark_skin_tone=🚣🏿\nperson_rowing_boat_light_skin_tone=🚣🏻",
  "person_rowing_boat_medium-dark_skin_tone=🚣🏾",
  "person_rowing_boat_medium-light_skin_tone=🚣🏼",
  "person_rowing_boat_medium_skin_tone=🚣🏽\nperson_running=🏃",
  "person_running_dark_skin_tone=🏃🏿\nperson_running_light_skin_tone=🏃🏻",
  "person_running_medium-dark_skin_tone=🏃🏾\nperson_running_medium-light_skin_tone=🏃🏼",
  "person_running_medium_skin_tone=🏃🏽\nperson_shrugging=🤷",
  "person_shrugging_dark_skin_tone=🤷🏿\nperson_shrugging_light_skin_tone=🤷🏻",
  "person_shrugging_medium-dark_skin_tone=🤷🏾",
  "person_shrugging_medium-light_skin_tone=🤷🏼\nperson_shrugging_medium_skin_tone=🤷🏽",
  "person_standing=🧍\nperson_surfing=🏄\nperson_surfing_dark_skin_tone=🏄🏿",
  "person_surfing_light_skin_tone=🏄🏻\nperson_surfing_medium-dark_skin_tone=🏄🏾",
  "person_surfing_medium-light_skin_tone=🏄🏼\nperson_surfing_medium_skin_tone=🏄🏽",
  "person_swimming=🏊\nperson_swimming_dark_skin_tone=🏊🏿",
  "person_swimming_light_skin_tone=🏊🏻\nperson_swimming_medium-dark_skin_tone=🏊🏾",
  "person_swimming_medium-light_skin_tone=🏊🏼\nperson_swimming_medium_skin_tone=🏊🏽",
  "person_taking_bath=🛀\nperson_taking_bath_dark_skin_tone=🛀🏿",
  "person_taking_bath_light_skin_tone=🛀🏻\nperson_taking_bath_medium-dark_skin_tone=🛀🏾",
  "person_taking_bath_medium-light_skin_tone=🛀🏼",
  "person_taking_bath_medium_skin_tone=🛀🏽\nperson_tipping_hand=💁",
  "person_tipping_hand_dark_skin_tone=💁🏿\nperson_tipping_hand_light_skin_tone=💁🏻",
  "person_tipping_hand_medium-dark_skin_tone=💁🏾",
  "person_tipping_hand_medium-light_skin_tone=💁🏼",
  "person_tipping_hand_medium_skin_tone=💁🏽\nperson_walking=🚶",
  "person_walking_dark_skin_tone=🚶🏿\nperson_walking_light_skin_tone=🚶🏻",
  "person_walking_medium-dark_skin_tone=🚶🏾\nperson_walking_medium-light_skin_tone=🚶🏼",
  "person_walking_medium_skin_tone=🚶🏽\nperson_wearing_turban=👳",
  "person_wearing_turban_dark_skin_tone=👳🏿\nperson_wearing_turban_light_skin_tone=👳🏻",
  "person_wearing_turban_medium-dark_skin_tone=👳🏾",
  "person_wearing_turban_medium-light_skin_tone=👳🏼",
  "person_wearing_turban_medium_skin_tone=👳🏽\nperson_with_ball=⛹",
  "person_with_blond_hair=👱\nperson_with_pouting_face=🙎\nperu=🇵🇪\npetri_dish=🧫",
  "philippines=🇵🇭\nphone=☎\npick=⛏\npie=🥧\npig=🐷\npig2=🐖\npig_face=🐷",
  "pig_nose=🐽\npile_of_poo=💩\npill=💊\npinching_hand=🤏\npine_decoration=🎍",
  "pineapple=🍍\nping_pong=🏓\npirate_flag=🏴\u200d☠\ufe0f\npisces=♓\npistol=🔫",
  "pitcairn_islands=🇵🇳\npizza=🍕\nplace_of_worship=🛐\nplay_button=▶",
  "play_or_pause_button=⏯\npleading_face=🥺\npoint_down=👇\npoint_left=👈",
  "point_right=👉\npoint_up=☝\npoint_up_2=👆\npoland=🇵🇱\npolice_car=🚓",
  "police_car_light=🚨\npolice_officer=👮\npolice_officer_dark_skin_tone=👮🏿",
  "police_officer_light_skin_tone=👮🏻\npolice_officer_medium-dark_skin_tone=👮🏾",
  "police_officer_medium-light_skin_tone=👮🏼\npolice_officer_medium_skin_tone=👮🏽",
  "poodle=🐩\npool_8_ball=🎱\npoop=💩\npopcorn=🍿\nportugal=🇵🇹\npost_office=🏣",
  "postal_horn=📯\npostbox=📮\npot_of_food=🍲\npotable_water=🚰\npotato=🥔\npouch=👝",
  "poultry_leg=🍗\npound=💷\npound_banknote=💷\npouting_cat=😾\npouting_cat_face=😾",
  "pouting_face=😡\npray=🙏\nprayer_beads=📿\npregnant_woman=🤰",
  "pregnant_woman_dark_skin_tone=🤰🏿\npregnant_woman_light_skin_tone=🤰🏻",
  "pregnant_woman_medium-dark_skin_tone=🤰🏾\npregnant_woman_medium-light_skin_tone=🤰🏼",
  "pregnant_woman_medium_skin_tone=🤰🏽\npretzel=🥨\nprince=🤴",
  "prince_dark_skin_tone=🤴🏿\nprince_light_skin_tone=🤴🏻",
  "prince_medium-dark_skin_tone=🤴🏾\nprince_medium-light_skin_tone=🤴🏼",
  "prince_medium_skin_tone=🤴🏽\nprincess=👸\nprincess_dark_skin_tone=👸🏿",
  "princess_light_skin_tone=👸🏻\nprincess_medium-dark_skin_tone=👸🏾",
  "princess_medium-light_skin_tone=👸🏼\nprincess_medium_skin_tone=👸🏽\nprinter=🖨",
  "probing_cane=🦯\nprohibited=🚫\npuerto_rico=🇵🇷\npunch=👊\npurple_circle=🟣",
  "purple_heart=💜\npurple_square=🟪\npurse=👛\npushpin=📌\nput_litter_in_its_place=🚮",
  "qatar=🇶🇦\nquestion=❓\nquestion_mark=❓\nrabbit=🐰\nrabbit2=🐇\nrabbit_face=🐰",
  "raccoon=🦝\nracehorse=🐎\nracing_car=🏎\nracing_motorcycle=🏍\nradio=📻",
  "radio_button=🔘\nradioactive=☢\nradioactive_sign=☢\nrage=😡\nrailway_car=🚃",
  "railway_track=🛤\nrainbow=🌈\nrainbow_flag=🏳\ufe0f\u200d🌈\nraised_back_of_hand=🤚",
  "raised_back_of_hand_dark_skin_tone=🤚🏿\nraised_back_of_hand_light_skin_tone=🤚🏻",
  "raised_back_of_hand_medium-dark_skin_tone=🤚🏾",
  "raised_back_of_hand_medium-light_skin_tone=🤚🏼",
  "raised_back_of_hand_medium_skin_tone=🤚🏽\nraised_fist=✊",
  "raised_fist_dark_skin_tone=✊🏿\nraised_fist_light_skin_tone=✊🏻",
  "raised_fist_medium-dark_skin_tone=✊🏾\nraised_fist_medium-light_skin_tone=✊🏼",
  "raised_fist_medium_skin_tone=✊🏽\nraised_hand=✋\nraised_hand_dark_skin_tone=✋🏿",
  "raised_hand_light_skin_tone=✋🏻\nraised_hand_medium-dark_skin_tone=✋🏾",
  "raised_hand_medium-light_skin_tone=✋🏼\nraised_hand_medium_skin_tone=✋🏽",
  "raised_hand_with_fingers_splayed=🖐",
  "raised_hand_with_part_between_middle_and_ring_fingers=🖖\nraised_hands=🙌",
  "raising_hand=🙋\nraising_hands=🙌\nraising_hands_dark_skin_tone=🙌🏿",
  "raising_hands_light_skin_tone=🙌🏻\nraising_hands_medium-dark_skin_tone=🙌🏾",
  "raising_hands_medium-light_skin_tone=🙌🏼\nraising_hands_medium_skin_tone=🙌🏽",
  "ram=🐏\nramen=🍜\nrat=🐀\nrazor=🪒\nreceipt=🧾\nrecord_button=⏺\nrecycle=♻",
  "recycling_symbol=♻\nred-haired_man=👨\u200d🦰\nred-haired_woman=👩\u200d🦰",
  "red_apple=🍎\nred_car=🚗\nred_circle=🔴\nred_envelope=🧧\nred_hair=🦰\nred_heart=❤",
  "red_paper_lantern=🏮\nred_square=🟥\nred_triangle_pointed_down=🔻",
  "red_triangle_pointed_up=🔺\nregional_indicator_a=🇦\nregional_indicator_b=🇧",
  "regional_indicator_c=🇨\nregional_indicator_d=🇩\nregional_indicator_e=🇪",
  "regional_indicator_f=🇫\nregional_indicator_g=🇬\nregional_indicator_h=🇭",
  "regional_indicator_i=🇮\nregional_indicator_j=🇯\nregional_indicator_k=🇰",
  "regional_indicator_l=🇱\nregional_indicator_m=🇲\nregional_indicator_n=🇳",
  "regional_indicator_o=🇴\nregional_indicator_p=🇵\nregional_indicator_q=🇶",
  "regional_indicator_r=🇷\nregional_indicator_s=🇸\nregional_indicator_symbol_letter_a=🇦",
  "regional_indicator_symbol_letter_b=🇧\nregional_indicator_symbol_letter_c=🇨",
  "regional_indicator_symbol_letter_d=🇩\nregional_indicator_symbol_letter_e=🇪",
  "regional_indicator_symbol_letter_f=🇫\nregional_indicator_symbol_letter_g=🇬",
  "regional_indicator_symbol_letter_h=🇭\nregional_indicator_symbol_letter_i=🇮",
  "regional_indicator_symbol_letter_j=🇯\nregional_indicator_symbol_letter_k=🇰",
  "regional_indicator_symbol_letter_l=🇱\nregional_indicator_symbol_letter_m=🇲",
  "regional_indicator_symbol_letter_n=🇳\nregional_indicator_symbol_letter_o=🇴",
  "regional_indicator_symbol_letter_p=🇵\nregional_indicator_symbol_letter_q=🇶",
  "regional_indicator_symbol_letter_r=🇷\nregional_indicator_symbol_letter_s=🇸",
  "regional_indicator_symbol_letter_t=🇹\nregional_indicator_symbol_letter_u=🇺",
  "regional_indicator_symbol_letter_v=🇻\nregional_indicator_symbol_letter_w=🇼",
  "regional_indicator_symbol_letter_x=🇽\nregional_indicator_symbol_letter_y=🇾",
  "regional_indicator_symbol_letter_z=🇿\nregional_indicator_t=🇹\nregional_indicator_u=🇺",
  "regional_indicator_v=🇻\nregional_indicator_w=🇼\nregional_indicator_x=🇽",
  "regional_indicator_y=🇾\nregional_indicator_z=🇿\nregistered=®\nrelaxed=☺\nrelieved=😌",
  "relieved_face=😌\nreminder_ribbon=🎗\nrepeat=🔁\nrepeat_button=🔁\nrepeat_one=🔂",
  "repeat_single_button=🔂\nrescue_worker’s_helmet=⛑\nrestroom=🚻\nreverse_button=◀",
  "reversed_hand_with_middle_finger_extended=🖕\nrevolving_hearts=💞\nrewind=⏪",
  "rhinoceros=🦏\nribbon=🎀\nrice=🍚\nrice_ball=🍙\nrice_cracker=🍘\nrice_scene=🎑",
  "right-facing_fist=🤜\nright-facing_fist_dark_skin_tone=🤜🏿",
  "right-facing_fist_light_skin_tone=🤜🏻\nright-facing_fist_medium-dark_skin_tone=🤜🏾",
  "right-facing_fist_medium-light_skin_tone=🤜🏼\nright-facing_fist_medium_skin_tone=🤜🏽",
  "right_anger_bubble=🗯\nright_arrow=➡\nright_arrow_curving_down=⤵",
  "right_arrow_curving_left=↩\nright_arrow_curving_up=⤴\nring=💍\nringed_planet=🪐",
  "roasted_sweet_potato=🍠\nrobot=🤖\nrobot_face=🤖\nrocket=🚀\nroll_of_paper=🧻",
  "rolled-up_newspaper=🗞\nrolled__up_newspaper=🗞\nroller_coaster=🎢",
  "rolling_on_the_floor_laughing=🤣\nromania=🇷🇴\nrooster=🐓\nrose=🌹\nrosette=🏵",
  "rotating_light=🚨\nround_pushpin=📍\nrowboat=🚣\nrugby_football=🏉\nrunner=🏃",
  "running=🏃\nrunning_shirt=🎽\nrunning_shirt_with_sash=🎽\nrunning_shoe=👟",
  "russia=🇷🇺\nrwanda=🇷🇼\nréunion=🇷🇪\nsa=🈂\nsad_but_relieved_face=😥",
  "safety_pin=🧷\nsafety_vest=🦺\nsagittarius=♐\nsailboat=⛵\nsake=🍶\nsalt=🧂",
  "samoa=🇼🇸\nsan_marino=🇸🇲\nsandal=👡\nsandwich=🥪\nsanta=🎅\nsanta_claus=🎅",
  "santa_claus_dark_skin_tone=🎅🏿\nsanta_claus_light_skin_tone=🎅🏻",
  "santa_claus_medium-dark_skin_tone=🎅🏾\nsanta_claus_medium-light_skin_tone=🎅🏼",
  "santa_claus_medium_skin_tone=🎅🏽\nsari=🥻\nsatellite=📡\nsatellite_antenna=📡",
  "satisfied=😆\nsaudi_arabia=🇸🇦\nsauropod=🦕\nsaxophone=🎷\nscales=⚖\nscarf=🧣",
  "school=🏫\nschool_backpack=🎒\nschool_satchel=🎒\nscissors=✂\nscorpio=♏",
  "scorpion=🦂\nscorpius=♏\nscotland=🏴󠁧󠁢󠁳󠁣󠁴󠁿\nscream=😱",
  "scream_cat=🙀\nscroll=📜\nseat=💺\nsecret=㊙\nsee-no-evil_monkey=🙈\nsee_no_evil=🙈",
  "seedling=🌱\nselfie=🤳\nselfie_dark_skin_tone=🤳🏿\nselfie_light_skin_tone=🤳🏻",
  "selfie_medium-dark_skin_tone=🤳🏾\nselfie_medium-light_skin_tone=🤳🏼",
  "selfie_medium_skin_tone=🤳🏽\nsenegal=🇸🇳\nserbia=🇷🇸\nservice_dog=🐕\u200d🦺",
  "seven=7\ufe0f\u20e3\nseven-thirty=🕢\nseven_o’clock=🕖\nseychelles=🇸🇨",
  "shallow_pan_of_food=🥘\nshamrock=☘\nshark=🦈\nshaved_ice=🍧\nsheaf_of_rice=🌾",
  "sheep=🐑\nshell=🐚\nshield=🛡\nshinto_shrine=⛩\nship=🚢\nshirt=👕\nshit=💩",
  "shoe=👞\nshooting_star=🌠\nshopping_bags=🛍\nshopping_cart=🛒\nshortcake=🍰",
  "shorts=🩳\nshower=🚿\nshrimp=🦐\nshuffle_tracks_button=🔀\nshushing_face=🤫",
  "sierra_leone=🇸🇱\nsign_of_the_horns=🤘\nsign_of_the_horns_dark_skin_tone=🤘🏿",
  "sign_of_the_horns_light_skin_tone=🤘🏻\nsign_of_the_horns_medium-dark_skin_tone=🤘🏾",
  "sign_of_the_horns_medium-light_skin_tone=🤘🏼\nsign_of_the_horns_medium_skin_tone=🤘🏽",
  "signal_strength=📶\nsingapore=🇸🇬\nsint_maarten=🇸🇽\nsix=6\ufe0f\u20e3",
  "six-thirty=🕡\nsix_o’clock=🕕\nsix_pointed_star=🔯\nskateboard=🛹\nski=🎿",
  "skier=⛷\nskis=🎿\nskull=💀\nskull_and_crossbones=☠\nskunk=🦨\nsled=🛷",
  "sleeping=😴\nsleeping_accommodation=🛌\nsleeping_face=😴\nsleepy=😪\nsleepy_face=😪",
  "sleuth_or_spy=🕵\nslightly_frowning_face=🙁\nslightly_smiling_face=🙂\nslot_machine=🎰",
  "sloth=🦥\nslovakia=🇸🇰\nslovenia=🇸🇮\nsmall_airplane=🛩\nsmall_blue_diamond=🔹",
  "small_orange_diamond=🔸\nsmall_red_triangle=🔺\nsmall_red_triangle_down=🔻\nsmile=😄",
  "smile_cat=😸\nsmiley=😃\nsmiley_cat=😺\nsmiling_cat_face_with_heart-eyes=😻",
  "smiling_face=☺\nsmiling_face_with_3_hearts=🥰\nsmiling_face_with_halo=😇",
  "smiling_face_with_heart-eyes=😍\nsmiling_face_with_horns=😈",
  "smiling_face_with_smiling_eyes=😊\nsmiling_face_with_sunglasses=😎\nsmiling_imp=😈",
  "smirk=😏\nsmirk_cat=😼\nsmirking_face=😏\nsmoking=🚬\nsnail=🐌\nsnake=🐍",
  "sneezing_face=🤧\nsnow-capped_mountain=🏔\nsnow_capped_mountain=🏔\nsnowboarder=🏂",
  "snowboarder_dark_skin_tone=🏂🏿\nsnowboarder_light_skin_tone=🏂🏻",
  "snowboarder_medium-dark_skin_tone=🏂🏾\nsnowboarder_medium-light_skin_tone=🏂🏼",
  "snowboarder_medium_skin_tone=🏂🏽\nsnowflake=❄\nsnowman=☃\nsnowman_without_snow=⛄",
  "soap=🧼\nsob=😭\nsoccer=⚽\nsoccer_ball=⚽\nsocks=🧦\nsoft_ice_cream=🍦",
  "softball=🥎\nsolomon_islands=🇸🇧\nsomalia=🇸🇴\nsoon=🔜\nsoon_arrow=🔜\nsos=🆘",
  "sos_button=🆘\nsound=🔉\nsouth_africa=🇿🇦",
  "south_georgia_&_south_sandwich_islands=🇬🇸\nsouth_korea=🇰🇷\nsouth_sudan=🇸🇸",
  "space_invader=👾\nspade_suit=♠\nspades=♠\nspaghetti=🍝\nspain=🇪🇸\nsparkle=❇",
  "sparkler=🎇\nsparkles=✨\nsparkling_heart=💖\nspeak-no-evil_monkey=🙊",
  "speak_no_evil=🙊\nspeaker=🔈\nspeaker_high_volume=🔊\nspeaker_low_volume=🔈",
  "speaker_medium_volume=🔉\nspeaking_head=🗣\nspeaking_head_in_silhouette=🗣",
  "speech_balloon=💬\nspeedboat=🚤\nspider=🕷\nspider_web=🕸\nspiral_calendar=🗓",
  "spiral_calendar_pad=🗓\nspiral_note_pad=🗒\nspiral_notepad=🗒\nspiral_shell=🐚",
  "sponge=🧽\nspoon=🥄\nsport_utility_vehicle=🚙\nsports_medal=🏅\nspouting_whale=🐳",
  "squid=🦑\nsquinting_face_with_tongue=😝\nsri_lanka=🇱🇰\nst._barthélemy=🇧🇱",
  "st._helena=🇸🇭\nst._kitts_&_nevis=🇰🇳\nst._lucia=🇱🇨\nst._martin=🇲🇫",
  "st._pierre_&_miquelon=🇵🇲\nst._vincent_&_grenadines=🇻🇨\nstadium=🏟\nstar=⭐",
  "star-struck=🤩\nstar2=🌟\nstar_and_crescent=☪\nstar_of_david=✡\nstars=🌠",
  "station=🚉\nstatue_of_liberty=🗽\nsteam_locomotive=🚂\nsteaming_bowl=🍜",
  "stethoscope=🩺\nstew=🍲\nstop_button=⏹\nstop_sign=🛑\nstopwatch=⏱",
  "straight_ruler=📏\nstrawberry=🍓\nstuck_out_tongue=😛\nstuck_out_tongue_closed_eyes=😝",
  "stuck_out_tongue_winking_eye=😜\nstudio_microphone=🎙\nstuffed_flatbread=🥙",
  "sudan=🇸🇩\nsun=☀\nsun_behind_cloud=⛅\nsun_behind_large_cloud=🌥",
  "sun_behind_rain_cloud=🌦\nsun_behind_small_cloud=🌤\nsun_with_face=🌞\nsunflower=🌻",
  "sunglasses=😎\nsunny=☀\nsunrise=🌅\nsunrise_over_mountains=🌄\nsunset=🌇",
  "superhero=🦸\nsupervillain=🦹\nsurfer=🏄\nsuriname=🇸🇷\nsushi=🍣",
  "suspension_railway=🚟\nsvalbard_&_jan_mayen=🇸🇯\nswan=🦢\nswaziland=🇸🇿",
  "sweat=😓\nsweat_droplets=💦\nsweat_drops=💦\nsweat_smile=😅\nsweden=🇸🇪",
  "sweet_potato=🍠\nswimmer=🏊\nswitzerland=🇨🇭\nsymbols=🔣\nsynagogue=🕍",
  "syria=🇸🇾\nsyringe=💉\nsão_tomé_&_príncipe=🇸🇹\nt-rex=🦖\nt-shirt=👕",
  "table_tennis_paddle_and_ball=🏓\ntaco=🌮\ntada=🎉\ntaiwan=🇹🇼\ntajikistan=🇹🇯",
  "takeout_box=🥡\ntanabata_tree=🎋\ntangerine=🍊\ntanzania=🇹🇿\ntaurus=♉\ntaxi=🚕",
  "tea=🍵\nteacup_without_handle=🍵\ntear-off_calendar=📆\nteddy_bear=🧸\ntelephone=☎",
  "telephone_receiver=📞\ntelescope=🔭\ntelevision=📺\nten=🔟\nten-thirty=🕥",
  "ten_o’clock=🕙\ntennis=🎾\ntent=⛺\ntest_tube=🧪\nthailand=🇹🇭\nthermometer=🌡",
  "thinking_face=🤔\nthought_balloon=💭\nthread=🧵\nthree=3\ufe0f\u20e3\nthree-thirty=🕞",
  "three_button_mouse=🖱\nthree_o’clock=🕒\nthumbs_down=👎",
  "thumbs_down_dark_skin_tone=👎🏿\nthumbs_down_light_skin_tone=👎🏻",
  "thumbs_down_medium-dark_skin_tone=👎🏾\nthumbs_down_medium-light_skin_tone=👎🏼",
  "thumbs_down_medium_skin_tone=👎🏽\nthumbs_up=👍\nthumbs_up_dark_skin_tone=👍🏿",
  "thumbs_up_light_skin_tone=👍🏻\nthumbs_up_medium-dark_skin_tone=👍🏾",
  "thumbs_up_medium-light_skin_tone=👍🏼\nthumbs_up_medium_skin_tone=👍🏽\nthumbsdown=👎",
  "thumbsup=👍\nthunder_cloud_and_rain=⛈\nticket=🎫\ntiger=🐯\ntiger2=🐅",
  "tiger_face=🐯\ntimer_clock=⏲\ntimor-leste=🇹🇱\ntired_face=😫\ntm=™\ntogo=🇹🇬",
  "toilet=🚽\ntokelau=🇹🇰\ntokyo_tower=🗼\ntomato=🍅\ntonga=🇹🇴\ntongue=👅",
  "toolbox=🧰\ntooth=🦷\ntop=🔝\ntop_arrow=🔝\ntop_hat=🎩\ntophat=🎩\ntornado=🌪",
  "trackball=🖲\ntractor=🚜\ntrade_mark=™\ntraffic_light=🚥\ntrain=🚋\ntrain2=🚆",
  "tram=🚊\ntram_car=🚋\ntriangular_flag=🚩\ntriangular_flag_on_post=🚩",
  "triangular_ruler=📐\ntrident=🔱\ntrident_emblem=🔱\ntrinidad_&_tobago=🇹🇹",
  "tristan_da_cunha=🇹🇦\ntriumph=😤\ntrolleybus=🚎\ntrophy=🏆\ntropical_drink=🍹",
  "tropical_fish=🐠\ntruck=🚚\ntrumpet=🎺\ntshirt=👕\ntulip=🌷\ntumbler_glass=🥃",
  "tunisia=🇹🇳\nturkey=🦃\nturkmenistan=🇹🇲\nturks_&_caicos_islands=🇹🇨",
  "turtle=🐢\ntuvalu=🇹🇻\ntv=📺\ntwelve-thirty=🕧\ntwelve_o’clock=🕛",
  "twisted_rightwards_arrows=🔀\ntwo=2\ufe0f\u20e3\ntwo-hump_camel=🐫\ntwo-thirty=🕝",
  "two_hearts=💕\ntwo_men_holding_hands=👬\ntwo_o’clock=🕑\ntwo_women_holding_hands=👭",
  "u.s._outlying_islands=🇺🇲\nu.s._virgin_islands=🇻🇮\nu5272=🈹\nu5408=🈴",
  "u55b6=🈺\nu6307=🈯\nu6708=🈷\nu6709=🈶\nu6e80=🈵\nu7121=🈚\nu7533=🈸\nu7981=🈲",
  "u7a7a=🈳\nuganda=🇺🇬\nukraine=🇺🇦\numbrella=☂\numbrella_on_ground=⛱",
  "umbrella_with_rain_drops=☔\nunamused=😒\nunamused_face=😒\nunderage=🔞",
  "unicorn_face=🦄\nunited_arab_emirates=🇦🇪\nunited_kingdom=🇬🇧",
  "united_nations=🇺🇳\nunited_states=🇺🇸\nunlock=🔓\nunlocked=🔓\nup=🆙",
  "up!_button=🆙\nup-down_arrow=↕\nup-left_arrow=↖\nup-right_arrow=↗\nup_arrow=⬆",
  "upside-down_face=🙃\nupside__down_face=🙃\nupwards_button=🔼\nuruguay=🇺🇾",
  "uzbekistan=🇺🇿\nv=✌\nvampire=🧛\nvampire_dark_skin_tone=🧛🏿",
  "vampire_light_skin_tone=🧛🏻\nvampire_medium-dark_skin_tone=🧛🏾",
  "vampire_medium-light_skin_tone=🧛🏼\nvampire_medium_skin_tone=🧛🏽\nvanuatu=🇻🇺",
  "vatican_city=🇻🇦\nvenezuela=🇻🇪\nvertical_traffic_light=🚦\nvhs=📼",
  "vibration_mode=📳\nvictory_hand=✌\nvictory_hand_dark_skin_tone=✌🏿",
  "victory_hand_light_skin_tone=✌🏻\nvictory_hand_medium-dark_skin_tone=✌🏾",
  "victory_hand_medium-light_skin_tone=✌🏼\nvictory_hand_medium_skin_tone=✌🏽",
  "video_camera=📹\nvideo_game=🎮\nvideocassette=📼\nvietnam=🇻🇳\nviolin=🎻",
  "virgo=♍\nvolcano=🌋\nvolleyball=🏐\nvs=🆚\nvs_button=🆚\nvulcan_salute=🖖",
  "vulcan_salute_dark_skin_tone=🖖🏿\nvulcan_salute_light_skin_tone=🖖🏻",
  "vulcan_salute_medium-dark_skin_tone=🖖🏾\nvulcan_salute_medium-light_skin_tone=🖖🏼",
  "vulcan_salute_medium_skin_tone=🖖🏽\nwaffle=🧇\nwales=🏴󠁧󠁢󠁷󠁬󠁳󠁿",
  "walking=🚶\nwallis_&_futuna=🇼🇫\nwaning_crescent_moon=🌘\nwaning_gibbous_moon=🌖",
  "warning=⚠\nwastebasket=🗑\nwatch=⌚\nwater_buffalo=🐃\nwater_closet=🚾",
  "water_wave=🌊\nwatermelon=🍉\nwave=👋\nwaving_black_flag=🏴\nwaving_hand=👋",
  "waving_hand_dark_skin_tone=👋🏿\nwaving_hand_light_skin_tone=👋🏻",
  "waving_hand_medium-dark_skin_tone=👋🏾\nwaving_hand_medium-light_skin_tone=👋🏼",
  "waving_hand_medium_skin_tone=👋🏽\nwaving_white_flag=🏳\nwavy_dash=〰",
  "waxing_crescent_moon=🌒\nwaxing_gibbous_moon=🌔\nwc=🚾\nweary=😩\nweary_cat_face=🙀",
  "weary_face=😩\nwedding=💒\nweight_lifter=🏋\nwestern_sahara=🇪🇭\nwhale=🐳",
  "whale2=🐋\nwheel_of_dharma=☸\nwheelchair=♿\nwheelchair_symbol=♿",
  "white-haired_man=👨\u200d🦳\nwhite-haired_woman=👩\u200d🦳\nwhite_check_mark=✅",
  "white_circle=⚪\nwhite_exclamation_mark=❕\nwhite_flag=🏳\nwhite_flower=💮",
  "white_frowning_face=☹\nwhite_hair=🦳\nwhite_heart=🤍\nwhite_heavy_check_mark=✅",
  "white_large_square=⬜\nwhite_medium-small_square=◽\nwhite_medium_small_square=◽",
  "white_medium_square=◻\nwhite_medium_star=⭐\nwhite_question_mark=❔\nwhite_small_square=▫",
  "white_square_button=🔳\nwhite_sun_behind_cloud=🌥\nwhite_sun_behind_cloud_with_rain=🌦",
  "white_sun_with_small_cloud=🌤\nwilted_flower=🥀\nwind_blowing_face=🌬\nwind_chime=🎐",
  "wind_face=🌬\nwine_glass=🍷\nwink=😉\nwinking_face=😉\nwinking_face_with_tongue=😜",
  "wolf=🐺\nwolf_face=🐺\nwoman=👩\nwoman_artist=👩\u200d🎨",
  "woman_artist_dark_skin_tone=👩🏿\u200d🎨\nwoman_artist_light_skin_tone=👩🏻\u200d🎨",
  "woman_artist_medium-dark_skin_tone=👩🏾\u200d🎨",
  "woman_artist_medium-light_skin_tone=👩🏼\u200d🎨",
  "woman_artist_medium_skin_tone=👩🏽\u200d🎨\nwoman_astronaut=👩\u200d🚀",
  "woman_astronaut_dark_skin_tone=👩🏿\u200d🚀",
  "woman_astronaut_light_skin_tone=👩🏻\u200d🚀",
  "woman_astronaut_medium-dark_skin_tone=👩🏾\u200d🚀",
  "woman_astronaut_medium-light_skin_tone=👩🏼\u200d🚀",
  "woman_astronaut_medium_skin_tone=👩🏽\u200d🚀\nwoman_biking=🚴\u200d♀\ufe0f",
  "woman_biking_dark_skin_tone=🚴🏿\u200d♀\ufe0f",
  "woman_biking_light_skin_tone=🚴🏻\u200d♀\ufe0f",
  "woman_biking_medium-dark_skin_tone=🚴🏾\u200d♀\ufe0f",
  "woman_biking_medium-light_skin_tone=🚴🏼\u200d♀\ufe0f",
  "woman_biking_medium_skin_tone=🚴🏽\u200d♀\ufe0f",
  "woman_bouncing_ball=⛹\ufe0f\u200d♀\ufe0f",
  "woman_bouncing_ball_dark_skin_tone=⛹🏿\u200d♀\ufe0f",
  "woman_bouncing_ball_light_skin_tone=⛹🏻\u200d♀\ufe0f",
  "woman_bouncing_ball_medium-dark_skin_tone=⛹🏾\u200d♀\ufe0f",
  "woman_bouncing_ball_medium-light_skin_tone=⛹🏼\u200d♀\ufe0f",
  "woman_bouncing_ball_medium_skin_tone=⛹🏽\u200d♀\ufe0f\nwoman_bowing=🙇\u200d♀\ufe0f",
  "woman_bowing_dark_skin_tone=🙇🏿\u200d♀\ufe0f",
  "woman_bowing_light_skin_tone=🙇🏻\u200d♀\ufe0f",
  "woman_bowing_medium-dark_skin_tone=🙇🏾\u200d♀\ufe0f",
  "woman_bowing_medium-light_skin_tone=🙇🏼\u200d♀\ufe0f",
  "woman_bowing_medium_skin_tone=🙇🏽\u200d♀\ufe0f\nwoman_cartwheeling=🤸\u200d♀\ufe0f",
  "woman_cartwheeling_dark_skin_tone=🤸🏿\u200d♀\ufe0f",
  "woman_cartwheeling_light_skin_tone=🤸🏻\u200d♀\ufe0f",
  "woman_cartwheeling_medium-dark_skin_tone=🤸🏾\u200d♀\ufe0f",
  "woman_cartwheeling_medium-light_skin_tone=🤸🏼\u200d♀\ufe0f",
  "woman_cartwheeling_medium_skin_tone=🤸🏽\u200d♀\ufe0f\nwoman_climbing=🧗\u200d♀\ufe0f",
  "woman_climbing_dark_skin_tone=🧗🏿\u200d♀\ufe0f",
  "woman_climbing_light_skin_tone=🧗🏻\u200d♀\ufe0f",
  "woman_climbing_medium-dark_skin_tone=🧗🏾\u200d♀\ufe0f",
  "woman_climbing_medium-light_skin_tone=🧗🏼\u200d♀\ufe0f",
  "woman_climbing_medium_skin_tone=🧗🏽\u200d♀\ufe0f",
  "woman_construction_worker=👷\u200d♀\ufe0f",
  "woman_construction_worker_dark_skin_tone=👷🏿\u200d♀\ufe0f",
  "woman_construction_worker_light_skin_tone=👷🏻\u200d♀\ufe0f",
  "woman_construction_worker_medium-dark_skin_tone=👷🏾\u200d♀\ufe0f",
  "woman_construction_worker_medium-light_skin_tone=👷🏼\u200d♀\ufe0f",
  "woman_construction_worker_medium_skin_tone=👷🏽\u200d♀\ufe0f\nwoman_cook=👩\u200d🍳",
  "woman_cook_dark_skin_tone=👩🏿\u200d🍳\nwoman_cook_light_skin_tone=👩🏻\u200d🍳",
  "woman_cook_medium-dark_skin_tone=👩🏾\u200d🍳",
  "woman_cook_medium-light_skin_tone=👩🏼\u200d🍳",
  "woman_cook_medium_skin_tone=👩🏽\u200d🍳\nwoman_dancing=💃",
  "woman_dancing_dark_skin_tone=💃🏿\nwoman_dancing_light_skin_tone=💃🏻",
  "woman_dancing_medium-dark_skin_tone=💃🏾\nwoman_dancing_medium-light_skin_tone=💃🏼",
  "woman_dancing_medium_skin_tone=💃🏽\nwoman_dark_skin_tone=👩🏿",
  "woman_detective=🕵\ufe0f\u200d♀\ufe0f",
  "woman_detective_dark_skin_tone=🕵🏿\u200d♀\ufe0f",
  "woman_detective_light_skin_tone=🕵🏻\u200d♀\ufe0f",
  "woman_detective_medium-dark_skin_tone=🕵🏾\u200d♀\ufe0f",
  "woman_detective_medium-light_skin_tone=🕵🏼\u200d♀\ufe0f",
  "woman_detective_medium_skin_tone=🕵🏽\u200d♀\ufe0f\nwoman_elf=🧝\u200d♀\ufe0f",
  "woman_elf_dark_skin_tone=🧝🏿\u200d♀\ufe0f",
  "woman_elf_light_skin_tone=🧝🏻\u200d♀\ufe0f",
  "woman_elf_medium-dark_skin_tone=🧝🏾\u200d♀\ufe0f",
  "woman_elf_medium-light_skin_tone=🧝🏼\u200d♀\ufe0f",
  "woman_elf_medium_skin_tone=🧝🏽\u200d♀\ufe0f\nwoman_facepalming=🤦\u200d♀\ufe0f",
  "woman_facepalming_dark_skin_tone=🤦🏿\u200d♀\ufe0f",
  "woman_facepalming_light_skin_tone=🤦🏻\u200d♀\ufe0f",
  "woman_facepalming_medium-dark_skin_tone=🤦🏾\u200d♀\ufe0f",
  "woman_facepalming_medium-light_skin_tone=🤦🏼\u200d♀\ufe0f",
  "woman_facepalming_medium_skin_tone=🤦🏽\u200d♀\ufe0f\nwoman_factory_worker=👩\u200d🏭",
  "woman_factory_worker_dark_skin_tone=👩🏿\u200d🏭",
  "woman_factory_worker_light_skin_tone=👩🏻\u200d🏭",
  "woman_factory_worker_medium-dark_skin_tone=👩🏾\u200d🏭",
  "woman_factory_worker_medium-light_skin_tone=👩🏼\u200d🏭",
  "woman_factory_worker_medium_skin_tone=👩🏽\u200d🏭\nwoman_fairy=🧚\u200d♀\ufe0f",
  "woman_fairy_dark_skin_tone=🧚🏿\u200d♀\ufe0f",
  "woman_fairy_light_skin_tone=🧚🏻\u200d♀\ufe0f",
  "woman_fairy_medium-dark_skin_tone=🧚🏾\u200d♀\ufe0f",
  "woman_fairy_medium-light_skin_tone=🧚🏼\u200d♀\ufe0f",
  "woman_fairy_medium_skin_tone=🧚🏽\u200d♀\ufe0f\nwoman_farmer=👩\u200d🌾",
  "woman_farmer_dark_skin_tone=👩🏿\u200d🌾\nwoman_farmer_light_skin_tone=👩🏻\u200d🌾",
  "woman_farmer_medium-dark_skin_tone=👩🏾\u200d🌾",
  "woman_farmer_medium-light_skin_tone=👩🏼\u200d🌾",
  "woman_farmer_medium_skin_tone=👩🏽\u200d🌾\nwoman_firefighter=👩\u200d🚒",
  "woman_firefighter_dark_skin_tone=👩🏿\u200d🚒",
  "woman_firefighter_light_skin_tone=👩🏻\u200d🚒",
  "woman_firefighter_medium-dark_skin_tone=👩🏾\u200d🚒",
  "woman_firefighter_medium-light_skin_tone=👩🏼\u200d🚒",
  "woman_firefighter_medium_skin_tone=👩🏽\u200d🚒\nwoman_frowning=🙍\u200d♀\ufe0f",
  "woman_frowning_dark_skin_tone=🙍🏿\u200d♀\ufe0f",
  "woman_frowning_light_skin_tone=🙍🏻\u200d♀\ufe0f",
  "woman_frowning_medium-dark_skin_tone=🙍🏾\u200d♀\ufe0f",
  "woman_frowning_medium-light_skin_tone=🙍🏼\u200d♀\ufe0f",
  "woman_frowning_medium_skin_tone=🙍🏽\u200d♀\ufe0f\nwoman_genie=🧞\u200d♀\ufe0f",
  "woman_gesturing_no=🙅\u200d♀\ufe0f",
  "woman_gesturing_no_dark_skin_tone=🙅🏿\u200d♀\ufe0f",
  "woman_gesturing_no_light_skin_tone=🙅🏻\u200d♀\ufe0f",
  "woman_gesturing_no_medium-dark_skin_tone=🙅🏾\u200d♀\ufe0f",
  "woman_gesturing_no_medium-light_skin_tone=🙅🏼\u200d♀\ufe0f",
  "woman_gesturing_no_medium_skin_tone=🙅🏽\u200d♀\ufe0f",
  "woman_gesturing_ok=🙆\u200d♀\ufe0f",
  "woman_gesturing_ok_dark_skin_tone=🙆🏿\u200d♀\ufe0f",
  "woman_gesturing_ok_light_skin_tone=🙆🏻\u200d♀\ufe0f",
  "woman_gesturing_ok_medium-dark_skin_tone=🙆🏾\u200d♀\ufe0f",
  "woman_gesturing_ok_medium-light_skin_tone=🙆🏼\u200d♀\ufe0f",
  "woman_gesturing_ok_medium_skin_tone=🙆🏽\u200d♀\ufe0f",
  "woman_getting_haircut=💇\u200d♀\ufe0f",
  "woman_getting_haircut_dark_skin_tone=💇🏿\u200d♀\ufe0f",
  "woman_getting_haircut_light_skin_tone=💇🏻\u200d♀\ufe0f",
  "woman_getting_haircut_medium-dark_skin_tone=💇🏾\u200d♀\ufe0f",
  "woman_getting_haircut_medium-light_skin_tone=💇🏼\u200d♀\ufe0f",
  "woman_getting_haircut_medium_skin_tone=💇🏽\u200d♀\ufe0f",
  "woman_getting_massage=💆\u200d♀\ufe0f",
  "woman_getting_massage_dark_skin_tone=💆🏿\u200d♀\ufe0f",
  "woman_getting_massage_light_skin_tone=💆🏻\u200d♀\ufe0f",
  "woman_getting_massage_medium-dark_skin_tone=💆🏾\u200d♀\ufe0f",
  "woman_getting_massage_medium-light_skin_tone=💆🏼\u200d♀\ufe0f",
  "woman_getting_massage_medium_skin_tone=💆🏽\u200d♀\ufe0f",
  "woman_golfing=🏌\ufe0f\u200d♀\ufe0f\nwoman_golfing_dark_skin_tone=🏌🏿\u200d♀\ufe0f",
  "woman_golfing_light_skin_tone=🏌🏻\u200d♀\ufe0f",
  "woman_golfing_medium-dark_skin_tone=🏌🏾\u200d♀\ufe0f",
  "woman_golfing_medium-light_skin_tone=🏌🏼\u200d♀\ufe0f",
  "woman_golfing_medium_skin_tone=🏌🏽\u200d♀\ufe0f\nwoman_guard=💂\u200d♀\ufe0f",
  "woman_guard_dark_skin_tone=💂🏿\u200d♀\ufe0f",
  "woman_guard_light_skin_tone=💂🏻\u200d♀\ufe0f",
  "woman_guard_medium-dark_skin_tone=💂🏾\u200d♀\ufe0f",
  "woman_guard_medium-light_skin_tone=💂🏼\u200d♀\ufe0f",
  "woman_guard_medium_skin_tone=💂🏽\u200d♀\ufe0f\nwoman_health_worker=👩\u200d⚕\ufe0f",
  "woman_health_worker_dark_skin_tone=👩🏿\u200d⚕\ufe0f",
  "woman_health_worker_light_skin_tone=👩🏻\u200d⚕\ufe0f",
  "woman_health_worker_medium-dark_skin_tone=👩🏾\u200d⚕\ufe0f",
  "woman_health_worker_medium-light_skin_tone=👩🏼\u200d⚕\ufe0f",
  "woman_health_worker_medium_skin_tone=👩🏽\u200d⚕\ufe0f",
  "woman_in_lotus_position=🧘\u200d♀\ufe0f",
  "woman_in_lotus_position_dark_skin_tone=🧘🏿\u200d♀\ufe0f",
  "woman_in_lotus_position_light_skin_tone=🧘🏻\u200d♀\ufe0f",
  "woman_in_lotus_position_medium-dark_skin_tone=🧘🏾\u200d♀\ufe0f",
  "woman_in_lotus_position_medium-light_skin_tone=🧘🏼\u200d♀\ufe0f",
  "woman_in_lotus_position_medium_skin_tone=🧘🏽\u200d♀\ufe0f",
  "woman_in_manual_wheelchair=👩\u200d🦽\nwoman_in_motorized_wheelchair=👩\u200d🦼",
  "woman_in_steamy_room=🧖\u200d♀\ufe0f",
  "woman_in_steamy_room_dark_skin_tone=🧖🏿\u200d♀\ufe0f",
  "woman_in_steamy_room_light_skin_tone=🧖🏻\u200d♀\ufe0f",
  "woman_in_steamy_room_medium-dark_skin_tone=🧖🏾\u200d♀\ufe0f",
  "woman_in_steamy_room_medium-light_skin_tone=🧖🏼\u200d♀\ufe0f",
  "woman_in_steamy_room_medium_skin_tone=🧖🏽\u200d♀\ufe0f\nwoman_judge=👩\u200d⚖\ufe0f",
  "woman_judge_dark_skin_tone=👩🏿\u200d⚖\ufe0f",
  "woman_judge_light_skin_tone=👩🏻\u200d⚖\ufe0f",
  "woman_judge_medium-dark_skin_tone=👩🏾\u200d⚖\ufe0f",
  "woman_judge_medium-light_skin_tone=👩🏼\u200d⚖\ufe0f",
  "woman_judge_medium_skin_tone=👩🏽\u200d⚖\ufe0f\nwoman_juggling=🤹\u200d♀\ufe0f",
  "woman_juggling_dark_skin_tone=🤹🏿\u200d♀\ufe0f",
  "woman_juggling_light_skin_tone=🤹🏻\u200d♀\ufe0f",
  "woman_juggling_medium-dark_skin_tone=🤹🏾\u200d♀\ufe0f",
  "woman_juggling_medium-light_skin_tone=🤹🏼\u200d♀\ufe0f",
  "woman_juggling_medium_skin_tone=🤹🏽\u200d♀\ufe0f",
  "woman_lifting_weights=🏋\ufe0f\u200d♀\ufe0f",
  "woman_lifting_weights_dark_skin_tone=🏋🏿\u200d♀\ufe0f",
  "woman_lifting_weights_light_skin_tone=🏋🏻\u200d♀\ufe0f",
  "woman_lifting_weights_medium-dark_skin_tone=🏋🏾\u200d♀\ufe0f",
  "woman_lifting_weights_medium-light_skin_tone=🏋🏼\u200d♀\ufe0f",
  "woman_lifting_weights_medium_skin_tone=🏋🏽\u200d♀\ufe0f\nwoman_light_skin_tone=👩🏻",
  "woman_mage=🧙\u200d♀\ufe0f\nwoman_mage_dark_skin_tone=🧙🏿\u200d♀\ufe0f",
  "woman_mage_light_skin_tone=🧙🏻\u200d♀\ufe0f",
  "woman_mage_medium-dark_skin_tone=🧙🏾\u200d♀\ufe0f",
  "woman_mage_medium-light_skin_tone=🧙🏼\u200d♀\ufe0f",
  "woman_mage_medium_skin_tone=🧙🏽\u200d♀\ufe0f\nwoman_mechanic=👩\u200d🔧",
  "woman_mechanic_dark_skin_tone=👩🏿\u200d🔧",
  "woman_mechanic_light_skin_tone=👩🏻\u200d🔧",
  "woman_mechanic_medium-dark_skin_tone=👩🏾\u200d🔧",
  "woman_mechanic_medium-light_skin_tone=👩🏼\u200d🔧",
  "woman_mechanic_medium_skin_tone=👩🏽\u200d🔧\nwoman_medium-dark_skin_tone=👩🏾",
  "woman_medium-light_skin_tone=👩🏼\nwoman_medium_skin_tone=👩🏽",
  "woman_mountain_biking=🚵\u200d♀\ufe0f",
  "woman_mountain_biking_dark_skin_tone=🚵🏿\u200d♀\ufe0f",
  "woman_mountain_biking_light_skin_tone=🚵🏻\u200d♀\ufe0f",
  "woman_mountain_biking_medium-dark_skin_tone=🚵🏾\u200d♀\ufe0f",
  "woman_mountain_biking_medium-light_skin_tone=🚵🏼\u200d♀\ufe0f",
  "woman_mountain_biking_medium_skin_tone=🚵🏽\u200d♀\ufe0f",
  "woman_office_worker=👩\u200d💼\nwoman_office_worker_dark_skin_tone=👩🏿\u200d💼",
  "woman_office_worker_light_skin_tone=👩🏻\u200d💼",
  "woman_office_worker_medium-dark_skin_tone=👩🏾\u200d💼",
  "woman_office_worker_medium-light_skin_tone=👩🏼\u200d💼",
  "woman_office_worker_medium_skin_tone=👩🏽\u200d💼\nwoman_pilot=👩\u200d✈\ufe0f",
  "woman_pilot_dark_skin_tone=👩🏿\u200d✈\ufe0f",
  "woman_pilot_light_skin_tone=👩🏻\u200d✈\ufe0f",
  "woman_pilot_medium-dark_skin_tone=👩🏾\u200d✈\ufe0f",
  "woman_pilot_medium-light_skin_tone=👩🏼\u200d✈\ufe0f",
  "woman_pilot_medium_skin_tone=👩🏽\u200d✈\ufe0f",
  "woman_playing_handball=🤾\u200d♀\ufe0f",
  "woman_playing_handball_dark_skin_tone=🤾🏿\u200d♀\ufe0f",
  "woman_playing_handball_light_skin_tone=🤾🏻\u200d♀\ufe0f",
  "woman_playing_handball_medium-dark_skin_tone=🤾🏾\u200d♀\ufe0f",
  "woman_playing_handball_medium-light_skin_tone=🤾🏼\u200d♀\ufe0f",
  "woman_playing_handball_medium_skin_tone=🤾🏽\u200d♀\ufe0f",
  "woman_playing_water_polo=🤽\u200d♀\ufe0f",
  "woman_playing_water_polo_dark_skin_tone=🤽🏿\u200d♀\ufe0f",
  "woman_playing_water_polo_light_skin_tone=🤽🏻\u200d♀\ufe0f",
  "woman_playing_water_polo_medium-dark_skin_tone=🤽🏾\u200d♀\ufe0f",
  "woman_playing_water_polo_medium-light_skin_tone=🤽🏼\u200d♀\ufe0f",
  "woman_playing_water_polo_medium_skin_tone=🤽🏽\u200d♀\ufe0f",
  "woman_police_officer=👮\u200d♀\ufe0f",
  "woman_police_officer_dark_skin_tone=👮🏿\u200d♀\ufe0f",
  "woman_police_officer_light_skin_tone=👮🏻\u200d♀\ufe0f",
  "woman_police_officer_medium-dark_skin_tone=👮🏾\u200d♀\ufe0f",
  "woman_police_officer_medium-light_skin_tone=👮🏼\u200d♀\ufe0f",
  "woman_police_officer_medium_skin_tone=👮🏽\u200d♀\ufe0f",
  "woman_pouting=🙎\u200d♀\ufe0f\nwoman_pouting_dark_skin_tone=🙎🏿\u200d♀\ufe0f",
  "woman_pouting_light_skin_tone=🙎🏻\u200d♀\ufe0f",
  "woman_pouting_medium-dark_skin_tone=🙎🏾\u200d♀\ufe0f",
  "woman_pouting_medium-light_skin_tone=🙎🏼\u200d♀\ufe0f",
  "woman_pouting_medium_skin_tone=🙎🏽\u200d♀\ufe0f\nwoman_raising_hand=🙋\u200d♀\ufe0f",
  "woman_raising_hand_dark_skin_tone=🙋🏿\u200d♀\ufe0f",
  "woman_raising_hand_light_skin_tone=🙋🏻\u200d♀\ufe0f",
  "woman_raising_hand_medium-dark_skin_tone=🙋🏾\u200d♀\ufe0f",
  "woman_raising_hand_medium-light_skin_tone=🙋🏼\u200d♀\ufe0f",
  "woman_raising_hand_medium_skin_tone=🙋🏽\u200d♀\ufe0f",
  "woman_rowing_boat=🚣\u200d♀\ufe0f\nwoman_rowing_boat_dark_skin_tone=🚣🏿\u200d♀\ufe0f",
  "woman_rowing_boat_light_skin_tone=🚣🏻\u200d♀\ufe0f",
  "woman_rowing_boat_medium-dark_skin_tone=🚣🏾\u200d♀\ufe0f",
  "woman_rowing_boat_medium-light_skin_tone=🚣🏼\u200d♀\ufe0f",
  "woman_rowing_boat_medium_skin_tone=🚣🏽\u200d♀\ufe0f\nwoman_running=🏃\u200d♀\ufe0f",
  "woman_running_dark_skin_tone=🏃🏿\u200d♀\ufe0f",
  "woman_running_light_skin_tone=🏃🏻\u200d♀\ufe0f",
  "woman_running_medium-dark_skin_tone=🏃🏾\u200d♀\ufe0f",
  "woman_running_medium-light_skin_tone=🏃🏼\u200d♀\ufe0f",
  "woman_running_medium_skin_tone=🏃🏽\u200d♀\ufe0f\nwoman_scientist=👩\u200d🔬",
  "woman_scientist_dark_skin_tone=👩🏿\u200d🔬",
  "woman_scientist_light_skin_tone=👩🏻\u200d🔬",
  "woman_scientist_medium-dark_skin_tone=👩🏾\u200d🔬",
  "woman_scientist_medium-light_skin_tone=👩🏼\u200d🔬",
  "woman_scientist_medium_skin_tone=👩🏽\u200d🔬\nwoman_shrugging=🤷\u200d♀\ufe0f",
  "woman_shrugging_dark_skin_tone=🤷🏿\u200d♀\ufe0f",
  "woman_shrugging_light_skin_tone=🤷🏻\u200d♀\ufe0f",
  "woman_shrugging_medium-dark_skin_tone=🤷🏾\u200d♀\ufe0f",
  "woman_shrugging_medium-light_skin_tone=🤷🏼\u200d♀\ufe0f",
  "woman_shrugging_medium_skin_tone=🤷🏽\u200d♀\ufe0f\nwoman_singer=👩\u200d🎤",
  "woman_singer_dark_skin_tone=👩🏿\u200d🎤\nwoman_singer_light_skin_tone=👩🏻\u200d🎤",
  "woman_singer_medium-dark_skin_tone=👩🏾\u200d🎤",
  "woman_singer_medium-light_skin_tone=👩🏼\u200d🎤",
  "woman_singer_medium_skin_tone=👩🏽\u200d🎤\nwoman_student=👩\u200d🎓",
  "woman_student_dark_skin_tone=👩🏿\u200d🎓",
  "woman_student_light_skin_tone=👩🏻\u200d🎓",
  "woman_student_medium-dark_skin_tone=👩🏾\u200d🎓",
  "woman_student_medium-light_skin_tone=👩🏼\u200d🎓",
  "woman_student_medium_skin_tone=👩🏽\u200d🎓\nwoman_surfing=🏄\u200d♀\ufe0f",
  "woman_surfing_dark_skin_tone=🏄🏿\u200d♀\ufe0f",
  "woman_surfing_light_skin_tone=🏄🏻\u200d♀\ufe0f",
  "woman_surfing_medium-dark_skin_tone=🏄🏾\u200d♀\ufe0f",
  "woman_surfing_medium-light_skin_tone=🏄🏼\u200d♀\ufe0f",
  "woman_surfing_medium_skin_tone=🏄🏽\u200d♀\ufe0f\nwoman_swimming=🏊\u200d♀\ufe0f",
  "woman_swimming_dark_skin_tone=🏊🏿\u200d♀\ufe0f",
  "woman_swimming_light_skin_tone=🏊🏻\u200d♀\ufe0f",
  "woman_swimming_medium-dark_skin_tone=🏊🏾\u200d♀\ufe0f",
  "woman_swimming_medium-light_skin_tone=🏊🏼\u200d♀\ufe0f",
  "woman_swimming_medium_skin_tone=🏊🏽\u200d♀\ufe0f\nwoman_teacher=👩\u200d🏫",
  "woman_teacher_dark_skin_tone=👩🏿\u200d🏫",
  "woman_teacher_light_skin_tone=👩🏻\u200d🏫",
  "woman_teacher_medium-dark_skin_tone=👩🏾\u200d🏫",
  "woman_teacher_medium-light_skin_tone=👩🏼\u200d🏫",
  "woman_teacher_medium_skin_tone=👩🏽\u200d🏫\nwoman_technologist=👩\u200d💻",
  "woman_technologist_dark_skin_tone=👩🏿\u200d💻",
  "woman_technologist_light_skin_tone=👩🏻\u200d💻",
  "woman_technologist_medium-dark_skin_tone=👩🏾\u200d💻",
  "woman_technologist_medium-light_skin_tone=👩🏼\u200d💻",
  "woman_technologist_medium_skin_tone=👩🏽\u200d💻\nwoman_tipping_hand=💁\u200d♀\ufe0f",
  "woman_tipping_hand_dark_skin_tone=💁🏿\u200d♀\ufe0f",
  "woman_tipping_hand_light_skin_tone=💁🏻\u200d♀\ufe0f",
  "woman_tipping_hand_medium-dark_skin_tone=💁🏾\u200d♀\ufe0f",
  "woman_tipping_hand_medium-light_skin_tone=💁🏼\u200d♀\ufe0f",
  "woman_tipping_hand_medium_skin_tone=💁🏽\u200d♀\ufe0f\nwoman_vampire=🧛\u200d♀\ufe0f",
  "woman_vampire_dark_skin_tone=🧛🏿\u200d♀\ufe0f",
  "woman_vampire_light_skin_tone=🧛🏻\u200d♀\ufe0f",
  "woman_vampire_medium-dark_skin_tone=🧛🏾\u200d♀\ufe0f",
  "woman_vampire_medium-light_skin_tone=🧛🏼\u200d♀\ufe0f",
  "woman_vampire_medium_skin_tone=🧛🏽\u200d♀\ufe0f\nwoman_walking=🚶\u200d♀\ufe0f",
  "woman_walking_dark_skin_tone=🚶🏿\u200d♀\ufe0f",
  "woman_walking_light_skin_tone=🚶🏻\u200d♀\ufe0f",
  "woman_walking_medium-dark_skin_tone=🚶🏾\u200d♀\ufe0f",
  "woman_walking_medium-light_skin_tone=🚶🏼\u200d♀\ufe0f",
  "woman_walking_medium_skin_tone=🚶🏽\u200d♀\ufe0f",
  "woman_wearing_turban=👳\u200d♀\ufe0f",
  "woman_wearing_turban_dark_skin_tone=👳🏿\u200d♀\ufe0f",
  "woman_wearing_turban_light_skin_tone=👳🏻\u200d♀\ufe0f",
  "woman_wearing_turban_medium-dark_skin_tone=👳🏾\u200d♀\ufe0f",
  "woman_wearing_turban_medium-light_skin_tone=👳🏼\u200d♀\ufe0f",
  "woman_wearing_turban_medium_skin_tone=👳🏽\u200d♀\ufe0f\nwoman_with_headscarf=🧕",
  "woman_with_headscarf_dark_skin_tone=🧕🏿\nwoman_with_headscarf_light_skin_tone=🧕🏻",
  "woman_with_headscarf_medium-dark_skin_tone=🧕🏾",
  "woman_with_headscarf_medium-light_skin_tone=🧕🏼",
  "woman_with_headscarf_medium_skin_tone=🧕🏽\nwoman_with_probing_cane=👩\u200d🦯",
  "woman_zombie=🧟\u200d♀\ufe0f\nwomans_clothes=👚\nwomans_hat=👒\nwoman’s_boot=👢",
  "woman’s_clothes=👚\nwoman’s_hat=👒\nwoman’s_sandal=👡",
  "women_with_bunny_ears=👯\u200d♀\ufe0f\nwomen_wrestling=🤼\u200d♀\ufe0f\nwomens=🚺",
  "women’s_room=🚺\nwoozy_face=🥴\nworld_map=🗺\nworried=😟\nworried_face=😟",
  "wrapped_gift=🎁\nwrench=🔧\nwriting_hand=✍\nwriting_hand_dark_skin_tone=✍🏿",
  "writing_hand_light_skin_tone=✍🏻\nwriting_hand_medium-dark_skin_tone=✍🏾",
  "writing_hand_medium-light_skin_tone=✍🏼\nwriting_hand_medium_skin_tone=✍🏽\nx=❌",
  "yarn=🧶\nyawning_face=🥱\nyellow_circle=🟡\nyellow_heart=💛\nyellow_square=🟨",
  "yemen=🇾🇪\nyen=💴\nyen_banknote=💴\nyin_yang=☯\nyo-yo=🪀\nyum=😋",
  "zambia=🇿🇲\nzany_face=🤪\nzap=⚡\nzebra=🦓\nzero=0\ufe0f\u20e3\nzimbabwe=🇿🇼",
  "zipper-mouth_face=🤐\nzipper__mouth_face=🤐\nzombie=🧟\nzzz=💤\nåland_islands=🇦🇽"]

/-- The emoji of a name in small letters. -/
def emoji? (name : List Char) : Option (List Char) :=
  let key := name ++ ['=']
  emojiRows.findSome? fun block =>
    (rows block.toList).findSome? fun row =>
      if key.isPrefixOf row then some (row.drop key.length) else none

/-- A name without a word for a form at its end, and the character that asks for the form. -/
def emojiForm (name : List Char) : List Char × List Char :=
  let without (word : String) : Option (List Char) :=
    if word.toList.isSuffixOf name then some (name.take (name.length - word.length)) else none
  match without "-emoji", without "-text" with
  | some stem, _ => (stem, [Char.ofNat 0xFE0F])
  | none, some stem => (stem, [Char.ofNat 0xFE0E])
  | none, none => (name, [])

/-- What stands for a name between colons. -/
def emojiOrName (name : List Char) : List Char :=
  let (stem, form) := emojiForm name
  match emoji? (toSmall stem) with
  | some e => e ++ form
  | none => ':' :: name ++ [':']

/-- The emoji in a text, behind an open name if there is one. -/
def emojifyBehind : Option (List Char) → List Char → List Char
  | none, [] => []
  | some name, [] => ':' :: name
  | none, c :: rest =>
      if c = ':' then emojifyBehind (some []) rest else c :: emojifyBehind none rest
  | some name, c :: rest =>
      if c = ':' then emojiOrName name ++ emojifyBehind none rest
      else if isBlank c then ':' :: name ++ c :: emojifyBehind none rest
      else emojifyBehind (some (name ++ [c])) rest

/-- A text with emoji in place of their names. -/
def emojify (s : List Char) : List Char :=
  emojifyBehind none s

end Terminal
end YamlTidy
